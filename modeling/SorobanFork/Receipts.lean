import SorobanFork.Sample
import SorobanFork.Server.Effects

/-!
# What a receipt tells about a hash

The fork does not reject replays, and the canonical hash of an envelope does not
cover its signatures: several executions can share one hash.  The receipt map
keeps the last of them.  `getTransaction_reports_last_send` says so for every
run of commands, from the history of replies alone.
-/

namespace SorobanFork

open Lib

variable {X : Xdr}

/-- The result of an executed send with the given hash. -/
def sendResult (world : World X) (networkId hash : Hash) :
    (Σ cmd : Command X, Except ActorError cmd.Reply) → Option (Except String ScVal)
  | ⟨.sendTransaction envelopeBytes _ _, .ok reply⟩ =>
    if receiptHash world envelopeBytes networkId = hash then
      some (SendReply.receipt reply).result
    else none
  | _ => none

/-- The results of the executed sends with the given hash, oldest first. -/
def sendResults (world : World X) (networkId hash : Hash)
    (history : List (Σ cmd : Command X, Except ActorError cmd.Reply)) :
    List (Except String ScVal) :=
  history.filterMap (sendResult world networkId hash)

/-- The status of the last of a list of executions. -/
def lastStatus (results : List (Except String ScVal)) : TransactionStatus :=
  match results.getLast? with
  | none => .notFound
  | some (.ok _) => .success
  | some (.error _) => .failed

/-- A status that tells the whole history of a hash: success once any execution
succeeded, failure while all of them failed. -/
def TellsHistory (status : TransactionStatus) (results : List (Except String ScVal)) : Prop :=
  (status = .success ↔ ∃ result ∈ results, result.isOk) ∧
    (status = .failed ↔ results ≠ [] ∧ ∀ result ∈ results, ¬result.isOk) ∧
    (status = .notFound ↔ results = [])

/-- The receipts of a server record the last executed send of every hash. -/
def RecordsLastSend (world : World X) (networkId : Hash)
    (history : List (Σ cmd : Command X, Except ActorError cmd.Reply)) (server : Server X) :
    Prop :=
  server.worker.env.networkId = networkId ∧
    ∀ hash, (server.worker.receipts.lookup hash).map (·.result) =
      (sendResults world networkId hash history).getLast?

section

variable {world : World X}

/-- A command that executes no send keeps the receipts and adds no result. -/
theorem recordsLastSend_of_same {networkId : Hash}
    {past : List (Σ cmd : Command X, Except ActorError cmd.Reply)}
    {out : Σ cmd : Command X, Except ActorError cmd.Reply} {server server' : Server X}
    (records : RecordsLastSend world networkId past server)
    (sameNetwork : server'.worker.env.networkId = server.worker.env.networkId)
    (sameReceipts : server'.worker.receipts = server.worker.receipts)
    (noSend : ∀ hash, sendResult world networkId hash out = none) :
    RecordsLastSend world networkId (past ++ [out]) server' := by
  refine ⟨sameNetwork.trans records.1, fun hash => ?_⟩
  have same : sendResults world networkId hash (past ++ [out]) =
      sendResults world networkId hash past := by
    rw [sendResults, List.filterMap_append, List.filterMap_cons_none (noSend hash),
      List.filterMap_nil, List.append_nil, sendResults]
  rw [sameReceipts, same, records.2]

theorem sendResult_of_readOnly {cmd : Command X} (readOnly : cmd.ReadOnly)
    (networkId hash : Hash) (reply : Except ActorError cmd.Reply) :
    sendResult world networkId hash ⟨cmd, reply⟩ = none := by
  cases cmd with
  | sendTransaction envelopeBytes hostFunction sourceAccount => exact readOnly.elim
  | _ => rfl

/-- **The step lemma**: every command keeps the receipts up to date. -/
theorem recordsLastSend_step {networkId : Hash}
    (past : List (Σ cmd : Command X, Except ActorError cmd.Reply)) (cmd : Command X)
    (server : Server X) (records : RecordsLastSend world networkId past server) :
    RecordsLastSend world networkId (past ++ [⟨cmd, (server.step world cmd).1⟩])
      (server.step world cmd).2 := by
  have network := Worker.step_networkId world cmd server.worker
  cases alive : server.alive with
  | false =>
      rw [Server.step_of_dead alive]
      exact recordsLastSend_of_same records rfl rfl fun hash => by cases cmd <;> rfl
  | true =>
      have worker := Server.step_worker world server cmd
      rw [alive, if_pos rfl] at worker
      by_cases readOnly : cmd.ReadOnly
      · obtain ⟨reads, receipts, -⟩ := Worker.step_onlyReads world server.worker readOnly
        exact recordsLastSend_of_same records (by rw [worker, reads.networkId])
          (by rw [worker, receipts]) fun hash => sendResult_of_readOnly readOnly networkId hash _
      cases cmd with
      | sendTransaction envelopeBytes hostFunction sourceAccount =>
          rcases sendTransaction_cases world envelopeBytes hostFunction sourceAccount
            ((world.systemTime server.worker.clockReads).getD 0) server.worker.env with
            ⟨panic, mid, -, reads, sent⟩ | ⟨invocation, mid, -, reads, outcome⟩
          · have ran := Worker.step_sendTransaction_of_error sent
            simp only [Server.step, alive, if_true, ran]
            exact recordsLastSend_of_same records reads.networkId rfl fun _ => rfl
          · obtain ⟨reply, env, sameHash, sent⟩ : ∃ reply env,
                SendReply.hash reply = receiptHash world envelopeBytes server.worker.env.networkId ∧
                sendTransaction world envelopeBytes hostFunction sourceAccount
                  ((world.systemTime server.worker.clockReads).getD 0) server.worker.env =
                    (.ok reply, env) := by
              rcases outcome with ⟨message, -, sent⟩ | ⟨value, -, sent⟩
              · exact ⟨_, _, rfl, sent⟩
              · exact ⟨_, _, rfl, sent⟩
            have ran := Worker.step_sendTransaction_of_ok sent
            rw [ran] at network
            rw [Server.step_of_ok alive ran]
            refine ⟨network.trans records.1, fun hash => ?_⟩
            rw [records.1] at sameHash
            rw [sendResults, List.filterMap_append]
            by_cases same : receiptHash world envelopeBytes networkId = hash
            · have result : sendResult world networkId hash
                  ⟨.sendTransaction envelopeBytes hostFunction sourceAccount, .ok reply⟩ =
                    some reply.receipt.result := if_pos same
              rw [List.filterMap_cons_some result, List.filterMap_nil, List.getLast?_concat,
                sameHash, same, AList.lookup_insert, Option.map_some]
            · have result : sendResult world networkId hash
                  ⟨.sendTransaction envelopeBytes hostFunction sourceAccount, .ok reply⟩ =
                    none := if_neg same
              rw [List.filterMap_cons_none result, List.filterMap_nil, List.append_nil, sameHash,
                AList.lookup_insert_ne (Ne.symm same)]
              exact records.2 hash
      | setLedgerEntry key entry liveUntil =>
          exact recordsLastSend_of_same records (by rw [worker]; rfl) (by rw [worker]; rfl)
            fun _ => rfl
      | closeLedgers ledgers seconds =>
          exact recordsLastSend_of_same records (by rw [worker]; rfl) (by rw [worker]; rfl)
            fun _ => rfl
      | _ => exact absurd trivial readOnly

/-- **A receipt tells about the last execution.**  After any run of commands on
a server that started without receipts, `getTransaction` reports a hash as
succeeded or failed according to the last executed send with that hash, and as
not found if there was none. -/
theorem getTransaction_reports_last_send (world : World X) (server : Server X)
    (fresh : server.worker.receipts = ∅) (cmds : List (Command X)) (hash : Hash)
    {receipt : Option (TxReceipt X)}
    (asked : (((Server.machine world).run cmds server).2.step world (.getTransaction hash)).1 =
      .ok receipt) :
    TransactionStatus.ofReceipt receipt =
      lastStatus (sendResults world server.worker.env.networkId hash
        ((Server.machine world).run cmds server).1) := by
  have start : RecordsLastSend world server.worker.env.networkId [] server :=
    ⟨rfl, fun hash => by rw [fresh]; rfl⟩
  have records := (Server.machine world).run_history _
    (fun past cmd server => recordsLastSend_step past cmd server) cmds start
  rw [List.nil_append] at records
  generalize (Server.machine world).run cmds server = outcome at asked records
  obtain ⟨history, after⟩ := outcome
  have stored : receipt = after.worker.receipts.lookup hash := by
    obtain ⟨-, w, ran, -⟩ := Server.step_ok_iff.mp (Prod.ext asked rfl)
    cases ran
    rfl
  have last := records.2 hash
  rw [← stored] at last
  rw [lastStatus, ← last]
  cases receipt with
  | none => rfl
  | some r =>
      rw [Option.map_some, TransactionStatus.ofReceipt]
      cases r.result <;> rfl

end

/-! ## A replay -/

namespace Sample

/-- A transaction that succeeds only the first time it is executed. -/
def initEnvelope : TransactionEnvelope := envelope 1 none (call "init" [])

def initCommand : Command xdr :=
  .sendTransaction (.envelope initEnvelope) (call "init" []) (account 1)

def initHash : Hash := receiptHash world (.envelope initEnvelope) (bytes32 9)

/-- Two submissions of the same envelope. -/
def replay : List (Σ cmd : Command xdr, Except ActorError cmd.Reply) × Server xdr :=
  (Server.machine world).run [initCommand, initCommand] (server [])

end Sample

open Sample in
/-- The second submission fails and its receipt replaces that of the first, whose
write stays in the snapshot. -/
theorem replay_reports_failed :
    sendResults world (bytes32 9) initHash replay.1 =
        [.ok .void, .error "host error: already initialised"] ∧
      (replay.2.step world (.getTransaction initHash)).1.toOption.map
        TransactionStatus.ofReceipt = some .failed ∧
      ¬TellsHistory .failed (sendResults world (bytes32 9) initHash replay.1) ∧
      (replay.2.worker.env.source.cached
        (slotKey (.contract (bytes32 1)) (.contract (bytes32 1)))).join.isSome := by
  have results : sendResults world (bytes32 9) initHash replay.1 =
      [.ok .void, .error "host error: already initialised"] := by rfl
  refine ⟨results, by decide, ?_, by decide⟩
  rw [results]
  rintro ⟨-, failed, -⟩
  exact (failed.mp rfl).2 (.ok .void) (by simp) rfl

open Sample in
theorem getTransaction_reports_replay :
    TransactionStatus.ofReceipt (replay.2.worker.receipts.lookup initHash) =
      lastStatus (sendResults world (bytes32 9) initHash replay.1) :=
  getTransaction_reports_last_send world (server []) rfl [initCommand, initCommand]
    initHash rfl

end SorobanFork
