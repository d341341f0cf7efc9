import Mathlib.Data.List.Forall2
import SorobanFork.Sample
import SorobanFork.Server.Effects

/-!
# The lazy fork refines an eager ledger

`EagerWorker` is what the server is for: a worker that holds the whole ledger,
a total map from keys to optional entries, and has neither a cache nor an
upstream.  `fork_refines_eager` says that, over an upstream that never fails
and always answers the same, the fork gives every client the replies of the
eager worker that starts from upstream overlaid by the fork's cache.

`Represents` is the simulation relation.  Reading keeps it (`Represents.reads`)
and sees the eager ledger (`Represents.read`); `Represents.step` is the step
lemma.  The reply fields that depend on the fee schedule and on the system clock
are blanked out by `Command.observed`.
-/

namespace SorobanFork

open Lib

/-- A ledger held in full. -/
abbrev LedgerMap : Type := LedgerKey → Option EntryWithLiveUntil

/-- Advance the sequence number of an account, if the ledger has it. -/
def LedgerMap.bumpSeq (id : AccountId) (ledger : LedgerMap) : LedgerMap :=
  Function.update ledger (.account id)
    ((ledger (.account id)).map fun found => (found.1.bumpSeq, found.2))

/-- Perform a batch of changes in order. -/
def LedgerMap.applyChanges {X : Xdr} (changes : List (LedgerEntryChange X)) (ledger : LedgerMap) :
    LedgerMap :=
  changes.foldl (LedgerEntryChange.applyTo id) ledger

/-- The number of read-write changes in a batch, as a `u32` that stops at its maximum. -/
def appliedCount {X : Xdr} (changes : List (LedgerEntryChange X)) : UInt32 :=
  UInt32.ofNat (min (changes.countP fun change => !change.readOnly) (2 ^ 32 - 1))

/-- A worker that holds the whole ledger. -/
structure EagerWorker (X : Xdr) : Type where
  entries : LedgerMap
  ledger : LedgerInfo
  networkId : Hash
  protocolVersion : UInt32
  passphrase : Option String
  receipts : Hash → Option (TxReceipt X)

/-- A receipt without its creation time. -/
def TxReceipt.observed {X : Xdr} (receipt : TxReceipt X) : TxReceipt X :=
  { receipt with createdAt := 0 }

/-- A reply without `min_resource_fee` and `created_at`. -/
def Command.observed {X : Xdr} : (cmd : Command X) → cmd.Reply → cmd.Reply
  | .simulateTransaction _ _ _, reply => { reply with minResourceFee := none }
  | .sendTransaction _ _ _, reply => { reply with receipt := reply.receipt.observed }
  | .getTransaction _, reply => reply.map TxReceipt.observed
  | .getNetwork, reply => reply
  | .getLatestLedger, reply => reply
  | .getLedgersPage, reply => reply
  | .getLedgerEntries _, reply => reply
  | .setLedgerEntry _ _ _, reply => reply
  | .closeLedgers _ _, reply => reply

namespace EagerWorker

variable {X : Xdr}

def step (world : World X) : (cmd : Command X) → EagerWorker X → cmd.Reply × EagerWorker X
  | .getNetwork, e =>
    ({ passphrase := e.passphrase.getD "Forked Soroban Network (custom network_id)"
       protocolVersion := e.protocolVersion
       networkIdHex := hexEncode e.networkId.toList }, e)
  | .getLatestLedger, e =>
    ({ sequence := e.ledger.sequenceNumber
       protocolVersion := e.protocolVersion
       id := s!"forked-ledger-{e.ledger.sequenceNumber}" }, e)
  | .getLedgersPage, e => (⟨e.ledger.sequenceNumber, e.ledger.timestamp⟩, e)
  | .getLedgerEntries keys, e =>
    (⟨keys.map fun key => (e.entries key).map fun entry => (key, entry),
      e.ledger.sequenceNumber⟩, e)
  | .simulateTransaction hostFunction sourceAccount _, e =>
    let invocation := (world.invoke e.ledger hostFunction sourceAccount).value e.entries
    let details := invocation.result.toOption
    ({ result := invocation.txResult
       auth := (details.map (·.auth)).getD []
       resources := (details.map (·.resources)).getD emptySorobanResources
       contractEvents := (details.map (·.contractEvents)).getD []
       diagnosticEvents := invocation.diagnosticEvents
       latestLedger := e.ledger.sequenceNumber
       minResourceFee := none
       memBytes := invocation.memBytes }, e)
  | .sendTransaction envelopeBytes hostFunction sourceAccount, e =>
    let invocation := (world.invoke e.ledger hostFunction sourceAccount).value e.entries
    let hash := receiptHash world envelopeBytes e.networkId
    let (applied, entries) :=
      match invocation.result with
      | .ok rec =>
        match rec.invokeResult with
        | .ok _ =>
          (appliedCount rec.ledgerChanges,
            (e.entries.applyChanges rec.ledgerChanges).bumpSeq sourceAccount)
        | .error _ => (0, e.entries)
      | .error _ => (0, e.entries)
    let receipt : TxReceipt X :=
      ⟨invocation.txResult, envelopeBytes, e.ledger.sequenceNumber, 0, applied⟩
    (⟨hash, receipt⟩,
      { e with entries := entries, receipts := Function.update e.receipts hash (some receipt) })
  | .getTransaction hash, e => (e.receipts hash, e)
  | .setLedgerEntry key entry liveUntil, e =>
    ((), { e with entries := Function.update e.entries key (some (entry, liveUntil)) })
  | .closeLedgers ledgers timestampAdvanceSeconds, e =>
    let ledger := e.ledger.advance ledgers timestampAdvanceSeconds
    (⟨ledger.sequenceNumber, ledger.timestamp⟩, { e with ledger := ledger })

def machine (world : World X) : Machine (Command X) (fun cmd => cmd.Reply) (EagerWorker X) :=
  ⟨step world⟩

/-- What the host returns on the ledger held. -/
def invocation (world : World X) (hostFunction : HostFunction) (sourceAccount : AccountId)
    (e : EagerWorker X) : Invocation X :=
  (world.invoke e.ledger hostFunction sourceAccount).value e.entries

/-- A send, in the words of the fork: it applies the changes of a successful invocation. -/
theorem step_sendTransaction (world : World X) (e : EagerWorker X) (envelopeBytes : X.Buf)
    (hostFunction : HostFunction) (sourceAccount : AccountId) :
    e.step world (.sendTransaction envelopeBytes hostFunction sourceAccount) =
      let invocation := e.invocation world hostFunction sourceAccount
      let hash := receiptHash world envelopeBytes e.networkId
      let (applied, entries) :=
        match invocation.txResult with
        | .ok _ =>
          (appliedCount invocation.changesToApply,
            (e.entries.applyChanges invocation.changesToApply).bumpSeq sourceAccount)
        | .error _ => (0, e.entries)
      let receipt : TxReceipt X :=
        ⟨invocation.txResult, envelopeBytes, e.ledger.sequenceNumber, 0, applied⟩
      (⟨hash, receipt⟩,
        { e with
          entries := entries
          receipts := Function.update e.receipts hash (some receipt) }) := by
  rcases ran : (Prog.value e.entries (world.invoke e.ledger hostFunction sourceAccount)).result
    with failure | rec
  · simp only [step, invocation, Invocation.txResult, ran]
  · rcases invoked : rec.invokeResult with failure | value
    · simp only [step, invocation, Invocation.txResult, ran, invoked, Except.mapError]
    · simp only [step, invocation, Invocation.txResult, Invocation.changesToApply, ran, invoked,
        Except.mapError]

/-- The eager worker a fork stands for: its ledger is `upstream` overlaid by
the fork's cache. -/
def ofWorker (upstream : LedgerKey → Option FetchedEntry) (w : Worker X) : EagerWorker X where
  entries key := (w.env.source.cached key).getD ((upstream key).map (·.withLiveUntil))
  ledger := w.env.ledger
  networkId := w.env.networkId
  protocolVersion := w.env.protocolVersion
  passphrase := w.env.passphrase
  receipts hash := (w.receipts.lookup hash).map (·.observed)

end EagerWorker

/-- The source account of a send is cached, or upstream does not have it. -/
def SourceKnown {X : Xdr} (upstream : LedgerKey → Option FetchedEntry)
    (source : RpcSnapshotSource X) : Command X → Prop
  | .sendTransaction _ _ sourceAccount =>
    (source.cached (.account sourceAccount)).isSome ∨ upstream (.account sourceAccount) = none
  | _ => True

/-! ## Counting -/

theorem applyChanges_fst {X : Xdr} {s : RpcSnapshotSource X}
    (changes : List (LedgerEntryChange X)) :
    (s.applyChanges changes).1 = appliedCount changes := by
  have counted (n : Nat) : changes.foldl
      (fun n change => if change.readOnly then n else saturatingAdd32 n 1)
      (UInt32.ofNat (min n (2 ^ 32 - 1))) =
      UInt32.ofNat (min (n + changes.countP fun change => !change.readOnly) (2 ^ 32 - 1)) := by
    induction changes generalizing n with
    | nil => rfl
    | cons change changes ih =>
        rw [List.foldl_cons, List.countP_cons]
        cases change.readOnly with
        | true => simpa using ih n
        | false =>
            rw [if_neg Bool.false_ne_true, saturatingAdd32_ofNat_one, ih]
            simp only [Bool.not_false, if_true]
            congr 2
            omega
  rw [RpcSnapshotSource.applyChanges_count]
  simpa [appliedCount] using counted 0

/-! ## The simulation -/

section

variable {X : Xdr} {world : World X} {upstream : LedgerKey → Option FetchedEntry}

/-- The worker shows the eager worker's ledger, and agrees with it elsewhere. -/
structure Represents (upstream : LedgerKey → Option FetchedEntry) (w : Worker X)
    (e : EagerWorker X) : Prop where
  view : ∀ key, w.env.source.view (fun key => .ok (upstream key)) key = some (e.entries key)
  ledger : w.env.ledger = e.ledger
  networkId : w.env.networkId = e.networkId
  protocolVersion : w.env.protocolVersion = e.protocolVersion
  passphrase : w.env.passphrase = e.passphrase
  receipts : ∀ hash, (w.receipts.lookup hash).map (·.observed) = e.receipts hash

namespace Represents

variable {w : Worker X} {e : EagerWorker X} {env : ForkedEnv X}

theorem ofWorker (w : Worker X) : Represents upstream w (.ofWorker upstream w) where
  view _ := Option.or_some
  ledger := rfl
  networkId := rfl
  protocolVersion := rfl
  passphrase := rfl
  receipts _ := rfl

/-- Work that only reads keeps the relation. -/
theorem reads (related : Represents upstream w e)
    (fixed : world.client.Fixed fun key => .ok (upstream key))
    (reads : ForkedEnv.OnlyReads world.client w.env env) :
    Represents upstream { w with env := env } e where
  view key := by
    show env.source.view _ key = _
    rw [reads.view _ fixed, related.view]
  ledger := reads.ledger.trans related.ledger
  networkId := reads.networkId.trans related.networkId
  protocolVersion := reads.protocolVersion.trans related.protocolVersion
  passphrase := reads.passphrase.trans related.passphrase
  receipts := related.receipts

/-- A reader sees the eager ledger, and does not panic. -/
theorem read (related : Represents upstream w e)
    (fixed : world.client.Fixed fun key => .ok (upstream key)) {α : Type} (reader : Reader α) :
    ∃ env, w.env.read world reader = (.ok (reader.value e.entries), env) ∧
      ForkedEnv.OnlyReads world.client w.env env := by
  refine ⟨_, Prod.ext ?_ rfl, ForkedEnv.read_onlyReads world w.env reader⟩
  rw [ForkedEnv.read_fst, RpcSnapshotSource.read_eq_eval fixed related.view]

/-- Resolving the fee schedule does not panic. -/
theorem feeConfiguration (related : Represents upstream w e)
    (fixed : world.client.Fixed fun key => .ok (upstream key)) :
    ∃ fees, (w.env.feeConfiguration world).1 = .ok fees := by
  obtain ⟨env, read, -⟩ := related.read fixed fetchFeeConfiguration
  obtain ⟨cfg, -, same⟩ | ⟨-, result, mid, ran, outcome⟩ := w.env.feeConfiguration_cases world
  · exact ⟨.ok cfg, by rw [same]⟩
  · rw [read] at ran
    obtain ⟨cfg, -, same⟩ | ⟨-, same⟩ := outcome
    · exact ⟨.ok cfg, by rw [same]⟩
    · exact ⟨_, by rw [same, ← (Prod.mk.inj ran).1]⟩

theorem computeMinResourceFee (related : Represents upstream w e)
    (fixed : world.client.Fixed fun key => .ok (upstream key)) (resources : SorobanResources)
    (contractEvents : List ContractEvent) (size : UInt32) :
    ∃ fee env, SorobanFork.computeMinResourceFee world resources contractEvents size w.env =
        (.ok fee, env) ∧
      ForkedEnv.OnlyReads world.client w.env env := by
  obtain ⟨fees, resolved⟩ := related.feeConfiguration fixed
  have reads := w.env.feeConfiguration_onlyReads world
  rcases outcome : w.env.feeConfiguration world with ⟨result, env⟩
  rw [outcome] at resolved reads
  obtain rfl : result = .ok fees := resolved
  cases fees with
  | error err => exact ⟨none, env, by simp only [SorobanFork.computeMinResourceFee, outcome], reads⟩
  | ok cfg => exact ⟨_, env, by simp only [SorobanFork.computeMinResourceFee, outcome]; rfl, reads⟩

/-- A simulation replies what the eager worker replies, up to the fee. -/
theorem simulateTransaction (related : Represents upstream w e)
    (fixed : world.client.Fixed fun key => .ok (upstream key)) (hostFunction : HostFunction)
    (sourceAccount : AccountId) (size : UInt32) :
    ∃ reply env, SorobanFork.simulateTransaction world hostFunction sourceAccount size w.env =
        (.ok reply, env) ∧
      ForkedEnv.OnlyReads world.client w.env env ∧
      { reply with minResourceFee := none } =
        (e.step world (.simulateTransaction hostFunction sourceAccount size)).1 := by
  obtain ⟨mid, read, reads⟩ := related.read fixed
    (world.invoke w.env.ledger hostFunction sourceAccount)
  rw [related.ledger] at read
  have sequence : mid.ledgerSequence = e.ledger.sequenceNumber := by
    rw [ForkedEnv.ledgerSequence, reads.ledger, related.ledger]
  generalize invoked : Prog.value e.entries (world.invoke e.ledger hostFunction sourceAccount) =
    invocation at read
  simp only [EagerWorker.step, invoked]
  cases simulated : invocation.result with
  | error message =>
      refine ⟨_, mid, by
        simp only [SorobanFork.simulateTransaction, related.ledger, read, simulated]
        rfl, reads, ?_⟩
      simp only [Invocation.txResult, simulated, sequence]
      rfl
  | ok rec =>
      obtain ⟨fee, env, computed, fee_reads⟩ := (related.reads fixed reads).computeMinResourceFee
        fixed rec.resources rec.contractEvents size
      have after : env.ledgerSequence = e.ledger.sequenceNumber := by
        rw [ForkedEnv.ledgerSequence, fee_reads.ledger, ← sequence, ForkedEnv.ledgerSequence]
      refine ⟨_, env, by
        simp only [SorobanFork.simulateTransaction, related.ledger, read, simulated, computed]
        rfl, reads.trans fee_reads, ?_⟩
      simp only [Invocation.txResult, simulated, after]
      rfl

/-- Performing a batch of changes keeps the relation. -/
theorem written (related : Represents upstream w e) (changes : List (LedgerEntryChange X)) :
    Represents upstream
      { w with env := { w.env with source := (w.env.source.applyChanges changes).2 } }
      { e with entries := e.entries.applyChanges changes } where
  view key := by
    show (w.env.source.applyChanges changes).2.view _ key =
      some (e.entries.applyChanges changes key)
    rw [RpcSnapshotSource.view_applyChanges, LedgerMap.applyChanges, funext related.view]
    have known := RpcSnapshotSource.foldl_applyTo_map (fun m key => some (m key))
      (fun m key value => Function.comp_update some m key value) changes e.entries
    exact (congrFun known key).symm
  ledger := related.ledger
  networkId := related.networkId
  protocolVersion := related.protocolVersion
  passphrase := related.passphrase
  receipts := related.receipts

/-- Bumping a known account keeps the relation. -/
theorem bumped (related : Represents upstream w e) {sourceAccount : AccountId}
    (known : (w.env.source.cached (.account sourceAccount)).isSome ∨
      upstream (.account sourceAccount) = none) :
    Represents upstream
      { w with env := { w.env with source := (w.env.source.bumpAccountSeq sourceAccount).2 } }
      { e with entries := e.entries.bumpSeq sourceAccount } where
  view key := by
    have shownKnown : (w.env.source.cached (.account sourceAccount)).isSome ∨
        Upstream.shown (fun key => .ok (upstream key)) w.env.source.fetchMode
          (.account sourceAccount) = some none := by
      rcases known with held | absent
      · exact .inl held
      · exact .inr (by simp only [Upstream.shown, absent, Option.map_none])
    show (w.env.source.bumpAccountSeq sourceAccount).2.view _ key =
      some (e.entries.bumpSeq sourceAccount key)
    rw [RpcSnapshotSource.view_bumpAccountSeq_of_known shownKnown, LedgerMap.bumpSeq]
    by_cases same : key = .account sourceAccount
    · rw [same, Function.update_self, Function.update_self, related.view, Option.map_some]
    · rw [Function.update_of_ne same, Function.update_of_ne same, related.view]
  ledger := related.ledger
  networkId := related.networkId
  protocolVersion := related.protocolVersion
  passphrase := related.passphrase
  receipts := related.receipts

/-- Applying a transaction keeps the relation, if the source account is known. -/
theorem applied (related : Represents upstream w e)
    (changes : List (LedgerEntryChange X)) {sourceAccount : AccountId}
    (known : (w.env.source.cached (.account sourceAccount)).isSome ∨
      upstream (.account sourceAccount) = none) :
    Represents upstream { w with env := w.env.applied changes sourceAccount }
      { e with entries := (e.entries.applyChanges changes).bumpSeq sourceAccount } :=
  (related.written changes).bumped
    (known.imp_left (RpcSnapshotSource.isSome_cached_applyChanges changes))

/-- Storing a receipt keeps the relation. -/
theorem stored (related : Represents upstream w e) (hash : Hash) (receipt : TxReceipt X)
    (n : Nat) :
    Represents upstream { w with receipts := w.receipts.insert hash receipt, clockReads := n }
      { e with receipts := Function.update e.receipts hash (some receipt.observed) } where
  view := related.view
  ledger := related.ledger
  networkId := related.networkId
  protocolVersion := related.protocolVersion
  passphrase := related.passphrase
  receipts h := by
    show ((w.receipts.insert hash receipt).lookup h).map _ =
      Function.update e.receipts hash (some receipt.observed) h
    by_cases same : h = hash
    · rw [same, Function.update_self, AList.lookup_insert, Option.map_some]
    · rw [Function.update_of_ne same, AList.lookup_insert_ne same, related.receipts]

/-- **What a send shows.**  It runs the eager invocation and replies what the
eager worker replies.  If the invocation fails, the eager ledger stays
represented; if it succeeds, the next state is known up to the entries. -/
theorem sends (related : Represents upstream w e)
    (fixed : world.client.Fixed fun key => .ok (upstream key)) (envelopeBytes : X.Buf)
    (hostFunction : HostFunction) (sourceAccount : AccountId) :
    ∃ mid reply w',
      w.env.read world (world.invoke w.env.ledger hostFunction sourceAccount) =
        (.ok (e.invocation world hostFunction sourceAccount), mid) ∧
      ForkedEnv.OnlyReads world.client w.env mid ∧
      w.step world (.sendTransaction envelopeBytes hostFunction sourceAccount) =
        (.ok reply, w') ∧
      { reply with receipt := reply.receipt.observed } =
        (e.step world (.sendTransaction envelopeBytes hostFunction sourceAccount)).1 ∧
      ((∃ message, (e.invocation world hostFunction sourceAccount).txResult = .error message) ∧
          Represents upstream w'
            (e.step world (.sendTransaction envelopeBytes hostFunction sourceAccount)).2 ∨
        (∃ value, (e.invocation world hostFunction sourceAccount).txResult = .ok value) ∧
          (e.step world (.sendTransaction envelopeBytes hostFunction sourceAccount)).2.entries =
            (e.entries.applyChanges
              (e.invocation world hostFunction sourceAccount).changesToApply).bumpSeq
                sourceAccount ∧
          ∀ entries,
            Represents upstream
              { w with
                env := mid.applied (e.invocation world hostFunction sourceAccount).changesToApply
                  sourceAccount }
              { e with entries := entries } →
            Represents upstream w'
              { (e.step world (.sendTransaction envelopeBytes hostFunction sourceAccount)).2 with
                entries := entries }) := by
  obtain ⟨seen, read, -⟩ := related.read fixed
    (world.invoke w.env.ledger hostFunction sourceAccount)
  rcases sendTransaction_cases world envelopeBytes hostFunction sourceAccount
    ((world.systemTime w.clockReads).getD 0) w.env with
    ⟨panic, mid, panicked, -⟩ | ⟨invocation, mid, ran, reads, outcome⟩
  · rw [read] at panicked
    cases panicked
  · have invoked : Prog.value e.entries (world.invoke e.ledger hostFunction sourceAccount) =
        invocation := by
      rw [read, related.ledger] at ran
      cases ran
      rfl
    have sequence : w.env.ledgerSequence = e.ledger.sequenceNumber :=
      congrArg LedgerInfo.sequenceNumber related.ledger
    rw [sequence, related.networkId] at outcome
    rw [EagerWorker.invocation, invoked]
    rcases outcome with ⟨message, failed, sent⟩ | ⟨value, succeeded, sent⟩
    · refine ⟨mid, _, _, ran, reads, Worker.step_sendTransaction_of_ok sent, ?_,
        .inl ⟨⟨message, failed⟩, ?_⟩⟩
      · rw [EagerWorker.step_sendTransaction]
        simp only [EagerWorker.invocation, invoked, failed]
        rfl
      · rw [EagerWorker.step_sendTransaction]
        simp only [EagerWorker.invocation, invoked, failed]
        exact (related.reads fixed reads).stored _ _ _
    · refine ⟨mid, _, _, ran, reads, Worker.step_sendTransaction_of_ok sent, ?_,
        .inr ⟨⟨value, succeeded⟩, ?_, fun entries after => ?_⟩⟩
      · rw [EagerWorker.step_sendTransaction]
        simp only [EagerWorker.invocation, invoked, succeeded, applyChanges_fst]
        rfl
      · rw [EagerWorker.step_sendTransaction]
        simp only [EagerWorker.invocation, invoked, succeeded]
      · rw [EagerWorker.step_sendTransaction]
        simp only [EagerWorker.invocation, invoked, succeeded, applyChanges_fst]
        exact after.stored _ _ _

theorem sendTransaction (related : Represents upstream w e)
    (fixed : world.client.Fixed fun key => .ok (upstream key)) (envelopeBytes : X.Buf)
    (hostFunction : HostFunction) (sourceAccount : AccountId)
    (known : SourceKnown upstream w.env.source
      (.sendTransaction envelopeBytes hostFunction sourceAccount)) :
    ∃ reply w', w.step world (.sendTransaction envelopeBytes hostFunction sourceAccount) =
        (.ok reply, w') ∧
      { reply with receipt := reply.receipt.observed } =
        (e.step world (.sendTransaction envelopeBytes hostFunction sourceAccount)).1 ∧
      Represents upstream w'
        (e.step world (.sendTransaction envelopeBytes hostFunction sourceAccount)).2 := by
  obtain ⟨mid, reply, w', -, reads, stepped, same, outcome⟩ :=
    related.sends fixed envelopeBytes hostFunction sourceAccount
  refine ⟨reply, w', stepped, same, ?_⟩
  rcases outcome with ⟨-, after⟩ | ⟨-, shown, after⟩
  · exact after
  · have stillKnown : (mid.source.cached (.account sourceAccount)).isSome ∨
        upstream (.account sourceAccount) = none := known.imp_left reads.isSome_cached
    have next := after _ ((related.reads fixed reads).applied _ stillKnown)
    rwa [← shown] at next

/-- **The step lemma.**  Every command gets the eager worker's reply, up to the
fee and the creation time, and keeps the relation. -/
theorem step (related : Represents upstream w e)
    (fixed : world.client.Fixed fun key => .ok (upstream key)) (cmd : Command X)
    (known : SourceKnown upstream w.env.source cmd) :
    ∃ reply w', w.step world cmd = (.ok reply, w') ∧
      cmd.observed reply = (e.step world cmd).1 ∧
      Represents upstream w' (e.step world cmd).2 := by
  have sequence : w.env.ledgerSequence = e.ledger.sequenceNumber :=
    congrArg LedgerInfo.sequenceNumber related.ledger
  cases cmd with
  | getNetwork =>
      refine ⟨_, w, rfl, ?_, related⟩
      simp only [Command.observed, EagerWorker.step, related.passphrase, related.protocolVersion,
        related.networkId]
      rfl
  | getLatestLedger =>
      refine ⟨_, w, rfl, ?_, related⟩
      simp only [Command.observed, EagerWorker.step, sequence, related.protocolVersion]
      rfl
  | getLedgersPage =>
      refine ⟨_, w, rfl, ?_, related⟩
      simp only [Command.observed, EagerWorker.step, sequence, ForkedEnv.ledgerCloseTime,
        related.ledger]
      rfl
  | getLedgerEntries keys =>
      obtain ⟨env, read, reads⟩ := related.read fixed (resolveLedgerEntries keys)
      refine ⟨_, _, by rw [Worker.step, read]; rfl, ?_, related.reads fixed reads⟩
      rw [value_resolveLedgerEntries]
      simp only [Command.observed, EagerWorker.step, ForkedEnv.ledgerSequence, reads.ledger,
        related.ledger]
      rfl
  | simulateTransaction hostFunction sourceAccount size =>
      obtain ⟨reply, env, simulated, reads, same⟩ :=
        related.simulateTransaction fixed hostFunction sourceAccount size
      exact ⟨reply, _, by rw [Worker.step, simulated]; rfl, same, related.reads fixed reads⟩
  | sendTransaction envelopeBytes hostFunction sourceAccount =>
      exact related.sendTransaction fixed envelopeBytes hostFunction sourceAccount known
  | getTransaction hash => exact ⟨_, w, rfl, related.receipts hash, related⟩
  | setLedgerEntry key entry liveUntil =>
      refine ⟨(), _, rfl, rfl, ?_⟩
      refine ⟨fun k => ?_, related.ledger, related.networkId, related.protocolVersion,
        related.passphrase, related.receipts⟩
      show (w.env.source.setEntry key entry liveUntil).view _ k =
        some (Function.update e.entries key (some (entry, liveUntil)) k)
      rw [RpcSnapshotSource.view_setEntry]
      by_cases same : k = key
      · rw [same, Function.update_self, Function.update_self]
      · rw [Function.update_of_ne same, Function.update_of_ne same, related.view]
  | closeLedgers ledgers seconds =>
      refine ⟨_, _, rfl, ?_, ?_⟩
      · simp only [Command.observed, EagerWorker.step, ForkedEnv.ledgerSequence,
          ForkedEnv.ledgerCloseTime, ForkedEnv.warp, related.ledger]
        rfl
      · exact ⟨related.view, congrArg (LedgerInfo.advance · ledgers seconds) related.ledger,
          related.networkId, related.protocolVersion, related.passphrase, related.receipts⟩

end Represents

/-- **The lazy fork refines an eager ledger.**  Over an upstream that gives each
key one answer and never fails, the replies of a live server to any list of
commands are those of the eager worker it starts from, up to the fee and the
creation time, provided that the source account of each send is then cached or
absent upstream. -/
theorem fork_refines_eager (fixed : world.client.Fixed fun key => .ok (upstream key))
    (server : Server X) (alive : server.alive = true) (cmds : List (Command X))
    (known : (Server.machine world).AllSteps
      (fun server => SourceKnown upstream server.worker.env.source) cmds server) :
    List.Forall₂
      (fun (lazy : Σ cmd : Command X, Except ActorError cmd.Reply)
          (eager : Σ cmd : Command X, cmd.Reply) =>
        ∃ cmd reply, lazy = ⟨cmd, .ok reply⟩ ∧ eager = ⟨cmd, cmd.observed reply⟩)
      ((Server.machine world).run cmds server).1
      ((EagerWorker.machine world).run cmds (.ofWorker upstream server.worker)).1 := by
  refine ((Server.machine world).run_refines (EagerWorker.machine world)
    (fun server e => server.alive = true ∧ Represents upstream server.worker e)
    (fun server => SourceKnown upstream server.worker.env.source) _ ?_ cmds known
    ⟨alive, .ofWorker server.worker⟩).1
  rintro cmd server e known ⟨alive, related⟩
  obtain ⟨reply, w, ran, same, kept⟩ := related.step fixed cmd known
  have stepped : server.step world cmd = (.ok reply, ⟨w, true⟩) := Server.step_of_ok alive ran
  refine ⟨⟨cmd, reply, ?_, ?_⟩, ?_⟩
  · simp only [Server.machine, stepped]
  · simp only [EagerWorker.machine, same]
  · simp only [Server.machine, stepped]
    exact ⟨trivial, kept⟩

end

/-! ## A run -/

namespace Sample

/-- A read of an absent key, a send that writes it, and a read of what it wrote. -/
def readWriteRead : List (Command xdr) :=
  [.getLedgerEntries [slotKey (.contract (bytes32 1)) (.contract (bytes32 1))],
    .sendTransaction (.raw []) (call "init" []) (account 1),
    .getLedgerEntries [slotKey (.contract (bytes32 1)) (.contract (bytes32 1))]]

end Sample

open Sample in
theorem fork_refines_eager_readWriteRead :
    List.Forall₂
      (fun (lazy : Σ cmd : Command xdr, Except ActorError cmd.Reply)
          (eager : Σ cmd : Command xdr, cmd.Reply) =>
        ∃ cmd reply, lazy = ⟨cmd, .ok reply⟩ ∧ eager = ⟨cmd, cmd.observed reply⟩)
      ((Server.machine world).run readWriteRead (server [accountEntry 1 5])).1
      ((EagerWorker.machine world).run readWriteRead
        (.ofWorker upstream (server [accountEntry 1 5]).worker)).1 :=
  fork_refines_eager fixed (server [accountEntry 1 5]) rfl readWriteRead
    ⟨trivial, .inl (by decide), trivial, trivial⟩

end SorobanFork
