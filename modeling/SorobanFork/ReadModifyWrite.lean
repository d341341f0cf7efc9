import SorobanFork.SeqNum
import SorobanFork.Server.Concurrent

/-!
# Cheatcodes that read, modify and write

`fork_setBalance` on a Classic asset and `fork_etch` read an entry in one
command and write it back, with one field replaced, in a later one.  Other
requests may get their commands in between.

`Cheat.rest` is an entry without the field the cheatcode sets.  The cheatcode
writes back the rest it read (`Cheat.rest_write`), in every interleaving
(`cheat_writes_rest_it_read`): a change that was made in between survives
exactly when it left the rest as it was.
-/

namespace SorobanFork

open Lib

/-- The two cheatcodes, with their decoded requests. -/
inductive Cheat : Type
  | setBalance (request : BalanceRequest)
  | etch (request : EtchRequest)

/-- An entry with its balance and its last-modified ledger blanked out. -/
def LedgerEntry.withoutBalance (entry : LedgerEntry) : LedgerEntry :=
  { entry with
    lastModifiedLedgerSeq := 0
    data :=
      match entry.data with
      | .account account => .account { account with balance := 0 }
      | .trustline tl => .trustline { tl with balance := 0 }
      | data => data }

/-- The storage of a contract instance. -/
def LedgerEntry.instanceStorage (entry : LedgerEntry) : Option (List (ScVal × ScVal)) :=
  match entry.data with
  | .contractData cd =>
    match cd.val with
    | .contractInstance _ storage => storage
    | _ => none
  | _ => none

namespace Cheat

section

variable {X : Xdr} (world : World X) (wire : Wire X)

/-- The request asks for this cheatcode. -/
def Requested (cheat : Cheat) (asked : String × wire.Json) : Prop :=
  match cheat with
  | .setBalance request =>
    asked.1 = "fork_setBalance" ∧ decodeSetBalance wire asked.2 = .ok (.inl request)
  | .etch request => asked.1 = "fork_etch" ∧ decodeEtch world wire asked.2 = .ok request

/-- The entry it reads and writes. -/
def key : Cheat → LedgerKey
  | .setBalance request => request.key
  | .etch request => request.instanceKey

/-- What it writes, from the entry and the ledger sequence it read. -/
def write (cheat : Cheat) (existing : Option LedgerEntry) (latestLedger : UInt32) :
    Except HandlerError EntryWrite :=
  match cheat with
  | .setBalance request =>
    (rebalance wire request existing latestLedger).map fun entry => ⟨request.key, entry, none⟩
  | .etch request => (preservedStorage wire existing).map request.instanceWrite

end

/-- What it has to leave as it is: all but the balance and the last-modified
ledger, or the storage of the instance. -/
def Rest : Cheat → Type
  | .setBalance _ => LedgerEntry
  | .etch _ => Option (List (ScVal × ScVal))

def rest : (cheat : Cheat) → LedgerEntry → cheat.Rest
  | .setBalance _, entry => entry.withoutBalance
  | .etch _, entry => entry.instanceStorage

section

variable {X : Xdr} {world : World X} {wire : Wire X} {cheat : Cheat} {latestLedger : UInt32}
  {write : EntryWrite}

/-- What rebalancing an entry that exists makes of it, if it is of the right kind. -/
theorem rebalance_some {request : BalanceRequest} {found entry : LedgerEntry}
    (built : rebalance wire request (some found) latestLedger = .ok entry) :
    (∃ account, found.data = .account account ∧
      entry = { found with
        data := .account { account with balance := request.amount }
        lastModifiedLedgerSeq := latestLedger }) ∨
    ∃ tl, found.data = .trustline tl ∧
      entry = { found with
        data := .trustline { tl with balance := request.amount }
        lastModifiedLedgerSeq := latestLedger } := by
  unfold rebalance at built
  cases asset : request.asset with
  | native =>
      cases data : found.data with
      | account account =>
          simp only [asset, data, Except.ok.injEq] at built
          exact .inl ⟨account, rfl, built.symm⟩
      | _ =>
          simp only [asset, data] at built
          cases built
  | credit trustline =>
      cases data : found.data with
      | trustline tl =>
          simp only [asset, data, Except.ok.injEq] at built
          exact .inr ⟨tl, rfl, built.symm⟩
      | _ =>
          simp only [asset, data] at built
          cases built

theorem withoutBalance_rebalance {request : BalanceRequest} {found entry : LedgerEntry}
    (built : rebalance wire request (some found) latestLedger = .ok entry) :
    entry.withoutBalance = found.withoutBalance := by
  rcases rebalance_some built with ⟨account, data, rfl⟩ | ⟨tl, data, rfl⟩
  · simp only [LedgerEntry.withoutBalance, data]
  · simp only [LedgerEntry.withoutBalance, data]

theorem preservedStorage_some {found : LedgerEntry} {storage : Option (List (ScVal × ScVal))}
    (preserved : preservedStorage wire (some found) = .ok storage) :
    storage = found.instanceStorage := by
  unfold preservedStorage at preserved
  unfold LedgerEntry.instanceStorage
  cases data : found.data with
  | contractData cd =>
      cases val : cd.val with
      | contractInstance executable stored =>
          simp only [data, val, Except.ok.injEq] at preserved
          simp only [val]
          exact preserved.symm
      | _ =>
          simp only [data, val] at preserved
          cases preserved
  | _ =>
      simp only [data] at preserved
      cases preserved

theorem key_write {existing : Option LedgerEntry}
    (written : cheat.write wire existing latestLedger = .ok write) : write.key = cheat.key := by
  cases cheat with
  | setBalance request =>
      obtain ⟨entry, -, rfl⟩ := except_map_eq_ok.mp written
      rfl
  | etch request =>
      obtain ⟨storage, -, rfl⟩ := except_map_eq_ok.mp written
      rfl

/-- **A cheatcode keeps the rest** of the entry it read. -/
theorem rest_write {found : LedgerEntry}
    (written : cheat.write wire (some found) latestLedger = .ok write) :
    cheat.rest write.entry = cheat.rest found := by
  cases cheat with
  | setBalance request =>
      obtain ⟨entry, built, rfl⟩ := except_map_eq_ok.mp written
      exact withoutBalance_rebalance built
  | etch request =>
      obtain ⟨storage, preserved, rfl⟩ := except_map_eq_ok.mp written
      exact preservedStorage_some preserved

end

end Cheat

/-! ## Their commands -/

section

variable {X : Xdr} {κ : Type} [DecidableEq κ] {world : World X} {wire : Wire X}

/-- Read an entry, compute a write from it, write, and go on. -/
def readModifyWrite (key : LedgerKey)
    (modify : Option LedgerEntry → UInt32 → Except HandlerError EntryWrite)
    (next : LedgerEntriesReply → Handler X Response) : Handler X Response := do
  let existing ← send (.getLedgerEntries [key])
  let write ← decoded (modify existing.single existing.latestLedger)
  send write.command
  next existing

theorem setClassicBalance_eq (wire : Wire X) (request : BalanceRequest) :
    ∃ next, setClassicBalance (X := X) wire request =
      readModifyWrite request.key ((Cheat.setBalance request).write wire) next := by
  refine ⟨fun existing => pure (.setBalance
    { ok := true, latestLedger := existing.latestLedger }), ?_⟩
  simp only [setClassicBalance, readModifyWrite, send_bind, Cheat.write]
  congr 1
  funext existing
  cases rebalance wire request existing.single existing.latestLedger <;> rfl

theorem etch_eq (wire : Wire X) (request : EtchRequest) :
    ∃ next, etch (X := X) wire request =
      (send request.codeWrite.command >>= fun _ =>
        readModifyWrite request.instanceKey ((Cheat.etch request).write wire) next :
          Handler X Response) := by
  refine ⟨fun _ => do
    let latest ← send .getLatestLedger
    return .setCode
      { ok := true, hash := hexLower request.hash, latestLedger := latest.sequence },
    congrArg (Prog.ask _) ?_⟩
  funext _
  refine congrArg (Prog.ask _) ?_
  funext existing
  simp only [Prog.ret_bind, ExceptT.bindCont, Cheat.write]
  cases preservedStorage wire existing.single <;> rfl

/-- The two commands of a read-modify-write that was answered: what it wrote is
computed from what the server held right after its read, and goes to the key it
read. -/
theorem turns_of_readModifyWrite {c : Clients κ (Command X) Command.Reply ActorError (Server X)
      (Except HandlerError Response)} {k : κ} {key : LedgerKey}
    {modify : Option LedgerEntry → UInt32 → Except HandlerError EntryWrite}
    {next : LedgerEntriesReply → Handler X Response} {schedule : List κ} {response : Response}
    (asks : c.progs k = .ok (readModifyWrite key modify next))
    (ended : (Clients.run (Server.step world) schedule c).progs k = .ok (.ret (.ok response))) :
    ∃ before between after write, schedule = before ++ k :: (between ++ k :: after) ∧
      k ∉ before ∧ k ∉ between ∧
      let atRead := Clients.run (Server.step world) (before ++ [k]) c
      let atWrite := Clients.run (Server.step world) between atRead
      let written := Clients.run (Server.step world) (between ++ [k]) atRead
      modify ((atRead.server.holds key).map (·.1)) atRead.server.ledgerSequence = .ok write ∧
        written.server.worker.env.source.cached =
          Function.update atWrite.server.worker.env.source.cached write.key
            (some (some (write.entry, write.liveUntil))) := by
  obtain ⟨before, rest, existing, rfl, notBefore, readServed, atRead, ended⟩ :=
    Clients.exists_turn (Server.step world) asks ended
  change _ = Except.ok (decoded (modify existing.single existing.latestLedger) >>= fun write =>
    send write.command >>= fun _ => next existing) at atRead
  obtain ⟨value, cached, found, latest⟩ := Server.step_getLedgerEntries_single readServed
  have held : (Clients.run (Server.step world) (before ++ [k]) c).server.holds key = value := by
    rw [Server.holds, cached, Option.join_some]
  rw [found, latest, ← held] at atRead
  rcases modified : modify
    (((Clients.run (Server.step world) (before ++ [k]) c).server.holds key).map (·.1))
    (Clients.run (Server.step world) (before ++ [k]) c).server.ledgerSequence with e | write
  · rw [modified] at atRead
    have failed := Clients.progs_run_of_ret (Server.step world) rest atRead
    rw [failed] at ended
    cases ended
  · rw [modified] at atRead
    obtain ⟨between, after, done, rfl, notBetween, writeServed, -, -⟩ :=
      Clients.exists_turn (Server.step world) atRead ended
    exact ⟨before, between, after, write, rfl, notBefore, notBetween, modified,
      Server.step_setLedgerEntry writeServed⟩

/-- The turns of the cheatcode's own client before the one that reads: none for
`fork_setBalance`, and the one that installs the code for `fork_etch`. -/
def Cheat.OwnTurnsBefore (world : World X)
    (c : Clients κ (Command X) Command.Reply ActorError (Server X) (Except HandlerError Response))
    (k : κ) (before : List κ) : Cheat → Prop
  | .setBalance _ => k ∉ before
  | .etch request =>
    ∃ idle others, before = idle ++ k :: others ∧ k ∉ idle ∧ k ∉ others ∧
      let atInstall := Clients.run (Server.step world) idle c
      let installed := Clients.run (Server.step world) (idle ++ [k]) c
      installed.server.worker.env.source.cached =
        Function.update atInstall.server.worker.env.source.cached request.codeWrite.key
          (some (some (request.codeWrite.entry, request.codeWrite.liveUntil)))

/-- The handler of a requested cheatcode. -/
def Cheat.handler (wire : Wire X) : Cheat → Handler X Response
  | .setBalance request => setClassicBalance wire request
  | .etch request => SorobanFork.etch wire request

theorem Cheat.Requested.dispatch {cheat : Cheat} {asked : String × wire.Json}
    (requested : cheat.Requested world wire asked) :
    dispatch world wire asked.1 asked.2 = cheat.handler wire := by
  obtain ⟨method, params⟩ := asked
  cases cheat with
  | setBalance request =>
      obtain ⟨rfl, decoded⟩ := requested
      rw [dispatch_fork_setBalance, handleForkSetBalance, decoded, decoded_ok_bind]
      rfl
  | etch request =>
      obtain ⟨rfl, decoded⟩ := requested
      exact dispatch_etch_of_decoded decoded

/-- **What a read-modify-write cheatcode keeps.**  In every interleaving of any
requests, a `fork_setBalance` on a Classic asset or a `fork_etch` that answers ok
writes what it computed from the entry it read, under the key it read, and keeps
the rest of that entry.  So a change that other requests made to the entry in
between is still there after the write exactly when it left the rest as it was. -/
theorem cheat_writes_rest_it_read (requests : κ → String × wire.Json) (server : Server X)
    {k : κ} {cheat : Cheat} {schedule : List κ} {response : Response}
    (requested : cheat.Requested world wire (requests k))
    (answered : (Clients.run (Server.step world) schedule
      (concurrently world wire requests server)).progs k = .ok (.ret (.ok response))) :
    ∃ before between after write, schedule = before ++ k :: (between ++ k :: after) ∧
      cheat.OwnTurnsBefore world (concurrently world wire requests server) k before ∧
      k ∉ between ∧
      let atRead := Clients.run (Server.step world) (before ++ [k])
        (concurrently world wire requests server)
      let atWrite := Clients.run (Server.step world) between atRead
      let written := Clients.run (Server.step world) (between ++ [k]) atRead
      cheat.write wire ((atRead.server.holds cheat.key).map (·.1))
          atRead.server.ledgerSequence = .ok write ∧
        written.server.worker.env.source.cached =
          Function.update atWrite.server.worker.env.source.cached cheat.key
            (some (some (write.entry, write.liveUntil))) ∧
        ∀ read, atRead.server.holds cheat.key = some read →
          cheat.rest write.entry = cheat.rest read.1 ∧
          ∀ current, atWrite.server.holds cheat.key = some current →
            (cheat.rest write.entry = cheat.rest current.1 ↔
              cheat.rest read.1 = cheat.rest current.1) := by
  have asks : (concurrently world wire requests server).progs k = .ok (cheat.handler wire) :=
    congrArg Except.ok requested.dispatch
  generalize concurrently world wire requests server = c at asks answered ⊢
  -- the turns of the client, after the code install that comes first in `fork_etch`
  obtain ⟨before, between, after, write, split, own, notBetween, modified, written⟩ :
      ∃ before between after write, schedule = before ++ k :: (between ++ k :: after) ∧
        cheat.OwnTurnsBefore world c k before ∧ k ∉ between ∧
        let atRead := Clients.run (Server.step world) (before ++ [k]) c
        let atWrite := Clients.run (Server.step world) between atRead
        let written := Clients.run (Server.step world) (between ++ [k]) atRead
        cheat.write wire ((atRead.server.holds cheat.key).map (·.1))
            atRead.server.ledgerSequence = .ok write ∧
          written.server.worker.env.source.cached =
            Function.update atWrite.server.worker.env.source.cached write.key
              (some (some (write.entry, write.liveUntil))) := by
    cases cheat with
    | setBalance request =>
        obtain ⟨next, same⟩ := setClassicBalance_eq wire request
        rw [Cheat.handler, same] at asks
        exact turns_of_readModifyWrite asks answered
    | etch request =>
        obtain ⟨next, same⟩ := etch_eq wire request
        rw [Cheat.handler, same] at asks
        obtain ⟨idle, rest, done, rfl, notIdle, installs, asks', answered'⟩ :=
          Clients.exists_turn (Server.step world) asks answered
        obtain ⟨others, between, after, write, rfl, notOthers, notBetween, facts⟩ :=
          turns_of_readModifyWrite asks' answered'
        refine ⟨idle ++ k :: others, between, after, write, ?_,
          ⟨idle, others, rfl, notIdle, notOthers, Server.step_setLedgerEntry installs⟩,
          notBetween, ?_⟩
        · rw [List.append_assoc, List.cons_append]
        · have prefix_eq : idle ++ k :: others ++ [k] =
              (idle ++ [k]) ++ (others ++ [k]) := by simp
          rw [prefix_eq, Clients.run_append]
          exact facts
  refine ⟨before, between, after, write, split, own, notBetween, modified, ?_,
    fun read held => ?_⟩
  · rw [written, Cheat.key_write modified]
  · rw [held, Option.map_some] at modified
    have kept := Cheat.rest_write modified
    exact ⟨kept, fun current _ => by rw [kept]⟩

end

/-! ## A run -/

namespace Sample

/-- Account 1 is given a balance of 77 while it sends a transaction. -/
def balanceAndSend : Bool → String × Json
  | false => ("fork_setBalance", .setBalance ⟨"G1", "77", none⟩)
  | true => ("sendTransaction", .sendTransaction ⟨"tx"⟩)

def balanceRequest : BalanceRequest := ⟨account 1, .native, 77⟩

def sendWire : Wire xdr := wire [("tx", .envelope ownEnvelope)]

/-- The two requests after a schedule of their commands. -/
def balanceAndSendAfter (schedule : List Bool) :
    Clients Bool (Command xdr) Command.Reply ActorError (Server xdr)
      (Except HandlerError Response) :=
  Clients.run (Server.step world) schedule
    (concurrently world sendWire balanceAndSend twoAccounts)

end Sample

open Sample in
/-- A send that comes between the read and the write of `fork_setBalance` loses
its sequence number: 6 just before the write, 5 after it. -/
theorem setBalance_rewinds_seqNum :
    (balanceAndSendAfter [false, true, false]).progs false =
        .ok (.ret (.ok (.setBalance ⟨true, 100⟩))) ∧
      seqNumAt (balanceAndSendAfter [false]).server.worker.env.source.cached (account 1) =
        some 5 ∧
      seqNumAt (balanceAndSendAfter [false, true]).server.worker.env.source.cached (account 1) =
        some 6 ∧
      seqNumAt (balanceAndSendAfter [false, true, false]).server.worker.env.source.cached
        (account 1) = some 5 :=
  ⟨rfl, by decide, by decide, by decide⟩

open Sample in
theorem cheat_writes_rest_it_read_balanceAndSend :
    ∃ before between after write,
      [false, true, false] = before ++ false :: (between ++ false :: after) ∧
      (Cheat.setBalance balanceRequest).OwnTurnsBefore world
        (concurrently world sendWire balanceAndSend twoAccounts) false before ∧
      false ∉ between ∧
      let atRead := Clients.run (Server.step world) (before ++ [false])
        (concurrently world sendWire balanceAndSend twoAccounts)
      let atWrite := Clients.run (Server.step world) between atRead
      let written := Clients.run (Server.step world) (between ++ [false]) atRead
      (Cheat.setBalance balanceRequest).write sendWire
          ((atRead.server.holds (Cheat.setBalance balanceRequest).key).map (·.1))
          atRead.server.ledgerSequence = .ok write ∧
        written.server.worker.env.source.cached =
          Function.update atWrite.server.worker.env.source.cached
            (Cheat.setBalance balanceRequest).key (some (some (write.entry, write.liveUntil))) ∧
        ∀ read, atRead.server.holds (Cheat.setBalance balanceRequest).key = some read →
          (Cheat.setBalance balanceRequest).rest write.entry =
            (Cheat.setBalance balanceRequest).rest read.1 ∧
          ∀ current, atWrite.server.holds (Cheat.setBalance balanceRequest).key = some current →
            ((Cheat.setBalance balanceRequest).rest write.entry =
                (Cheat.setBalance balanceRequest).rest current.1 ↔
              (Cheat.setBalance balanceRequest).rest read.1 =
                (Cheat.setBalance balanceRequest).rest current.1) :=
  @cheat_writes_rest_it_read xdr Bool _ world sendWire balanceAndSend twoAccounts false
    (.setBalance balanceRequest) [false, true, false] (.setBalance ⟨true, 100⟩) ⟨rfl, rfl⟩ rfl

end SorobanFork
