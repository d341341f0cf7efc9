import SorobanFork.Server.Actor

/-!
# What each command does to the fork

One lemma for each kind of command.  Every invariant of the worker is derived
from these, so no later proof unfolds `Worker.step`.

* `Worker.step_onlyReads`: the reading commands;
* `Worker.step_setLedgerEntry`, `Worker.step_closeLedgers`: the direct writes;
* `sendTransaction_cases`: a send panics, fails, or is applied;
* `Server.step_of_worker`: the server replies what its worker does, while it is
  alive.
-/

namespace SorobanFork

open Lib

variable {X : Xdr} {world : World X}

section Reading

theorem asked_resolveLedgerEntries (ledger : LedgerKey → Option EntryWithLiveUntil)
    (keys : List LedgerKey) : (resolveLedgerEntries keys).asked ledger = keys := by
  induction keys with
  | nil => rfl
  | cons key keys ih =>
      rw [resolveLedgerEntries, Prog.asked, Prog.asked_bind, ih, Prog.asked, List.append_nil]

theorem value_resolveLedgerEntries (ledger : LedgerKey → Option EntryWithLiveUntil)
    (keys : List LedgerKey) :
    (resolveLedgerEntries keys).value ledger =
      keys.map fun key => (ledger key).map fun entry => (key, entry) := by
  induction keys with
  | nil => rfl
  | cons key keys ih =>
      rw [resolveLedgerEntries, Prog.value_ask, Prog.value_bind, ih, Prog.value_ret, List.map_cons]

theorem computeMinResourceFee_onlyReads (world : World X) (env : ForkedEnv X)
    (resources : SorobanResources) (contractEvents : List ContractEvent) (size : UInt32) :
    ForkedEnv.OnlyReads world.client env
      (computeMinResourceFee world resources contractEvents size env).2 := by
  have reads := env.feeConfiguration_onlyReads world
  unfold computeMinResourceFee
  generalize env.feeConfiguration world = outcome at reads
  rcases outcome with ⟨panic | e | cfg, env'⟩
  · exact reads
  · exact reads
  · exact reads

theorem simulateTransaction_onlyReads (world : World X) (env : ForkedEnv X)
    (hostFunction : HostFunction) (sourceAccount : AccountId) (size : UInt32) :
    ForkedEnv.OnlyReads world.client env
      (simulateTransaction world hostFunction sourceAccount size env).2 := by
  have reads := ForkedEnv.read_onlyReads world env
    (world.invoke env.ledger hostFunction sourceAccount)
  unfold simulateTransaction
  generalize env.read world (world.invoke env.ledger hostFunction sourceAccount) = outcome at reads
  rcases outcome with ⟨panic | invocation, mid⟩
  · exact reads
  · rcases simulated : invocation.result with e | rec
    · simp only [simulated]
      exact reads
    · have fee := computeMinResourceFee_onlyReads world mid rec.resources
        rec.contractEvents size
      simp only [simulated]
      generalize computeMinResourceFee world rec.resources rec.contractEvents size mid = outcome
        at fee
      rcases outcome with ⟨panic | fee', env'⟩
      · exact reads.trans fee
      · exact reads.trans fee

/-! ### Invariants of the source -/

section Kept

variable (inv : RpcSnapshotSource X → Prop)
  (get : ∀ key source, inv source → inv (source.get world.client key).2)

include get

/-- What every `get` preserves of the source, every reader preserves. -/
theorem RpcSnapshotSource.read_kept {α : Type} (reader : Reader α) {source : RpcSnapshotSource X}
    (holds : inv source) : inv (source.read world.client reader).2 :=
  reader.run_rel (fun source source' => inv source → inv source') (fun _ => id)
    (fun _ _ _ first second => second ∘ first) get source holds

theorem ForkedEnv.feeConfiguration_kept {env : ForkedEnv X} (holds : inv env.source) :
    inv (env.feeConfiguration world).2.source := by
  have kept : inv (env.read world fetchFeeConfiguration).2.source :=
    RpcSnapshotSource.read_kept inv get fetchFeeConfiguration holds
  obtain ⟨cfg, -, same⟩ | ⟨-, result, mid, ran, outcome⟩ := env.feeConfiguration_cases world
  · rwa [same]
  · rw [ran] at kept
    obtain ⟨cfg, -, same⟩ | ⟨-, same⟩ := outcome
    · rwa [same]
    · rwa [same]

theorem simulateTransaction_kept {env : ForkedEnv X} (hostFunction : HostFunction)
    (sourceAccount : AccountId) (size : UInt32) (holds : inv env.source) :
    inv (simulateTransaction world hostFunction sourceAccount size env).2.source := by
  have kept : inv (env.read world (world.invoke env.ledger hostFunction sourceAccount)).2.source :=
    RpcSnapshotSource.read_kept inv get _ holds
  unfold simulateTransaction computeMinResourceFee
  generalize env.read world (world.invoke env.ledger hostFunction sourceAccount) = outcome at kept
  rcases outcome with ⟨panic | invocation, mid⟩
  · exact kept
  · rcases simulated : invocation.result with e | rec
    · simp only [simulated]
      exact kept
    · have fee := ForkedEnv.feeConfiguration_kept inv get kept
      simp only [simulated]
      generalize mid.feeConfiguration world = outcome at fee
      rcases outcome with ⟨panic | e | cfg, env'⟩
      · exact fee
      · exact fee
      · exact fee

/-- What every `get` preserves of the source, every reading command preserves. -/
theorem Worker.step_kept {w : Worker X} {cmd : Command X} (readOnly : cmd.ReadOnly)
    (holds : inv w.env.source) : inv (w.step world cmd).2.env.source := by
  cases cmd with
  | getNetwork => exact holds
  | getLatestLedger => exact holds
  | getLedgersPage => exact holds
  | getTransaction hash => exact holds
  | getLedgerEntries keys =>
      have kept : inv (w.env.read world (resolveLedgerEntries keys)).2.source :=
        RpcSnapshotSource.read_kept inv get _ holds
      rw [step]
      generalize w.env.read world (resolveLedgerEntries keys) = outcome at kept
      rcases outcome with ⟨panic | entries, env⟩
      · exact kept
      · exact kept
  | simulateTransaction hostFunction sourceAccount size =>
      exact simulateTransaction_kept inv get hostFunction sourceAccount size holds
  | sendTransaction envelopeBytes hostFunction sourceAccount => exact readOnly.elim
  | setLedgerEntry key entry liveUntil => exact readOnly.elim
  | closeLedgers ledgers seconds => exact readOnly.elim

end Kept

/-- A simulation replies with the result of the invocation it read. -/
theorem simulateTransaction_ok {env env' : ForkedEnv X} {hostFunction : HostFunction}
    {sourceAccount : AccountId} {size : UInt32} {reply : SimulationReply}
    (simulated : simulateTransaction world hostFunction sourceAccount size env =
      (.ok reply, env')) :
    ∃ invocation mid,
      env.read world (world.invoke env.ledger hostFunction sourceAccount) =
        (.ok invocation, mid) ∧
      reply.result = invocation.txResult := by
  unfold simulateTransaction at simulated
  rcases ran : env.read world (world.invoke env.ledger hostFunction sourceAccount) with
    ⟨panic | invocation, mid⟩
  · rw [ran] at simulated
    cases simulated
  · rw [ran] at simulated
    refine ⟨invocation, mid, rfl, ?_⟩
    rcases result : invocation.result with e | rec
    · simp only [result] at simulated
      cases simulated
      simp only [Invocation.txResult, result]
    · simp only [result] at simulated
      rcases fee : computeMinResourceFee world rec.resources rec.contractEvents size mid with
        ⟨panic | fee, last⟩
      · rw [fee] at simulated
        cases simulated
      · rw [fee] at simulated
        cases simulated
        simp only [Invocation.txResult, result]

/-- A simulation replies with the ledger that the fork is at. -/
theorem latestLedger_simulateTransaction {hostFunction : HostFunction} {sourceAccount : AccountId}
    {size : UInt32} {env env' : ForkedEnv X} {reply : SimulationReply}
    (simulated : simulateTransaction world hostFunction sourceAccount size env =
      (.ok reply, env')) :
    reply.latestLedger = env'.ledgerSequence := by
  unfold simulateTransaction at simulated
  rcases read : env.read world (world.invoke env.ledger hostFunction sourceAccount) with
    ⟨panic | invocation, mid⟩
  · rw [read] at simulated
    cases simulated
  rw [read] at simulated
  rcases ran : invocation.result with e | rec
  · simp only [ran] at simulated
    cases simulated
    rfl
  · simp only [ran] at simulated
    rcases fee : computeMinResourceFee world rec.resources rec.contractEvents size mid with
      ⟨panic | minResourceFee, last⟩
    · rw [fee] at simulated
      cases simulated
    · rw [fee] at simulated
      cases simulated
      rfl

/-- What a simulation does after its invocation only reads. -/
theorem simulateTransaction_after {env mid : ForkedEnv X} {hostFunction : HostFunction}
    {sourceAccount : AccountId} {size : UInt32} {invocation : Invocation X}
    (ran : env.read world (world.invoke env.ledger hostFunction sourceAccount) =
      (.ok invocation, mid)) :
    ForkedEnv.OnlyReads world.client mid
      (simulateTransaction world hostFunction sourceAccount size env).2 := by
  unfold simulateTransaction
  rw [ran]
  rcases simulated : invocation.result with e | rec
  · simp only [simulated]
    exact .refl mid
  · have fee := computeMinResourceFee_onlyReads world mid rec.resources rec.contractEvents size
    simp only [simulated]
    generalize computeMinResourceFee world rec.resources rec.contractEvents size mid = outcome
      at fee
    rcases outcome with ⟨panic | fee', env'⟩
    · exact fee
    · exact fee

end Reading

namespace Worker

/-- A reading command only reads; the receipts and the clock stay as they are. -/
theorem step_onlyReads (world : World X) (w : Worker X) {cmd : Command X}
    (readOnly : cmd.ReadOnly) :
    ForkedEnv.OnlyReads world.client w.env (w.step world cmd).2.env ∧
      (w.step world cmd).2.receipts = w.receipts ∧
      (w.step world cmd).2.clockReads = w.clockReads := by
  cases cmd with
  | getNetwork => exact ⟨.refl _, rfl, rfl⟩
  | getLatestLedger => exact ⟨.refl _, rfl, rfl⟩
  | getLedgersPage => exact ⟨.refl _, rfl, rfl⟩
  | getTransaction hash => exact ⟨.refl _, rfl, rfl⟩
  | getLedgerEntries keys =>
      have reads := ForkedEnv.read_onlyReads world w.env (resolveLedgerEntries keys)
      rw [step]
      generalize w.env.read world (resolveLedgerEntries keys) = outcome at reads
      rcases outcome with ⟨panic | entries, env⟩
      · exact ⟨reads, rfl, rfl⟩
      · exact ⟨reads, rfl, rfl⟩
  | simulateTransaction hostFunction sourceAccount size =>
      exact ⟨simulateTransaction_onlyReads world w.env hostFunction sourceAccount size, rfl, rfl⟩
  | sendTransaction envelopeBytes hostFunction sourceAccount => exact readOnly.elim
  | setLedgerEntry key entry liveUntil => exact readOnly.elim
  | closeLedgers ledgers seconds => exact readOnly.elim

theorem step_setLedgerEntry (w : Worker X) (key : LedgerKey) (entry : LedgerEntry)
    (liveUntil : Option UInt32) :
    w.step world (.setLedgerEntry key entry liveUntil) =
      (.ok (), { w with env :=
        { w.env with source := w.env.source.setEntry key entry liveUntil } }) := rfl

theorem step_closeLedgers (w : Worker X) (ledgers : UInt32) (seconds : UInt64) :
    (w.step world (.closeLedgers ledgers seconds)).2 =
      { w with env := w.env.warp ledgers seconds } := rfl

end Worker

/-! ## Sends -/

/-- The fork after a transaction whose changes were applied: first the changes,
then the bump of the source account. -/
def ForkedEnv.applied (changes : List (LedgerEntryChange X)) (sourceAccount : AccountId)
    (env : ForkedEnv X) : ForkedEnv X :=
  { env with source := ((env.source.applyChanges changes).2.bumpAccountSeq sourceAccount).2 }

/-- The source at the moment a successful send bumps: the reads and the writes
of its invocation are in it. -/
def Worker.beforeBump (world : World X) (hostFunction : HostFunction) (sourceAccount : AccountId)
    (w : Worker X) : RpcSnapshotSource X :=
  match w.env.read world (world.invoke w.env.ledger hostFunction sourceAccount) with
  | (.ok invocation, env) => (env.source.applyChanges invocation.changesToApply).2
  | (.error _, env) => env.source

/-- **What a send does.**  It panics while reading; or the invocation fails and
nothing but reading happened; or it succeeds and its changes are applied. -/
theorem sendTransaction_cases (world : World X) (envelopeBytes : X.Buf)
    (hostFunction : HostFunction) (sourceAccount : AccountId) (createdAt : UInt64)
    (env : ForkedEnv X) :
    (∃ panic mid,
      env.read world (world.invoke env.ledger hostFunction sourceAccount) = (.error panic, mid) ∧
      ForkedEnv.OnlyReads world.client env mid ∧
      sendTransaction world envelopeBytes hostFunction sourceAccount createdAt env =
        (.error panic, mid)) ∨
    (∃ invocation mid,
      env.read world (world.invoke env.ledger hostFunction sourceAccount) =
        (.ok invocation, mid) ∧
      ForkedEnv.OnlyReads world.client env mid ∧
      ((∃ message, invocation.txResult = .error message ∧
          sendTransaction world envelopeBytes hostFunction sourceAccount createdAt env =
            (.ok ⟨receiptHash world envelopeBytes env.networkId,
              ⟨.error message, envelopeBytes, env.ledgerSequence, createdAt, 0⟩⟩, mid)) ∨
        (∃ value, invocation.txResult = .ok value ∧
          sendTransaction world envelopeBytes hostFunction sourceAccount createdAt env =
            (.ok ⟨receiptHash world envelopeBytes env.networkId,
              ⟨.ok value, envelopeBytes, env.ledgerSequence, createdAt,
                (mid.source.applyChanges invocation.changesToApply).1⟩⟩,
              mid.applied invocation.changesToApply sourceAccount)))) := by
  have reads := ForkedEnv.read_onlyReads world env
    (world.invoke env.ledger hostFunction sourceAccount)
  rcases ran : env.read world (world.invoke env.ledger hostFunction sourceAccount) with
    ⟨panic | invocation, mid⟩
  · rw [ran] at reads
    exact .inl ⟨panic, mid, rfl, reads, by simp only [sendTransaction, ran]⟩
  · rw [ran] at reads
    refine .inr ⟨invocation, mid, rfl, reads, ?_⟩
    have sameNetwork : mid.networkId = env.networkId := reads.networkId
    have sameLedger : mid.ledgerSequence = env.ledgerSequence := by
      rw [ForkedEnv.ledgerSequence, reads.ledger, ForkedEnv.ledgerSequence]
    rcases outcome : invocation.txResult with message | value
    · exact .inl ⟨message, rfl, by
        simp only [sendTransaction, ran, outcome, sameLedger]
        rw [← sameNetwork]⟩
    · exact .inr ⟨value, rfl, by
        simp only [sendTransaction, ran, outcome, sameLedger, ForkedEnv.applied]
        rw [← sameNetwork]⟩

/-- The worker after a send: its environment is that of `sendTransaction`, and
an executed send stores its receipt. -/
theorem Worker.step_sendTransaction_of_ok {w : Worker X} {envelopeBytes : X.Buf}
    {hostFunction : HostFunction} {sourceAccount : AccountId} {reply : SendReply X}
    {env : ForkedEnv X}
    (sent : sendTransaction world envelopeBytes hostFunction sourceAccount
      ((world.systemTime w.clockReads).getD 0) w.env = (.ok reply, env)) :
    w.step world (.sendTransaction envelopeBytes hostFunction sourceAccount) =
      (.ok reply, ⟨env, w.receipts.insert reply.hash reply.receipt, w.clockReads + 1⟩) := by
  simp only [step, sent]

theorem Worker.step_sendTransaction_of_error {w : Worker X} {envelopeBytes : X.Buf}
    {hostFunction : HostFunction} {sourceAccount : AccountId} {panic : Panic}
    {env : ForkedEnv X}
    (sent : sendTransaction world envelopeBytes hostFunction sourceAccount
      ((world.systemTime w.clockReads).getD 0) w.env = (.error panic, env)) :
    w.step world (.sendTransaction envelopeBytes hostFunction sourceAccount) =
      (.error panic, { w with env := env }) := by
  simp only [step, sent]

/-- **What an answered send did.**  Its invocation ran; the reply reports its
result; and if it succeeded, its changes are applied. -/
theorem Worker.step_sendTransaction_ok {w w' : Worker X} {envelopeBytes : X.Buf}
    {hostFunction : HostFunction} {sourceAccount : AccountId} {reply : SendReply X}
    (answered : w.step world (.sendTransaction envelopeBytes hostFunction sourceAccount) =
      (.ok reply, w')) :
    ∃ invocation mid,
      w.env.read world (world.invoke w.env.ledger hostFunction sourceAccount) =
        (.ok invocation, mid) ∧
      ForkedEnv.OnlyReads world.client w.env mid ∧
      reply.receipt.result = invocation.txResult ∧
      ((∃ message, invocation.txResult = .error message) ∧ w'.env = mid ∨
        (∃ value, invocation.txResult = .ok value) ∧
          w'.env = mid.applied invocation.changesToApply sourceAccount) := by
  rcases sendTransaction_cases world envelopeBytes hostFunction sourceAccount
      ((world.systemTime w.clockReads).getD 0) w.env with
    ⟨panic, mid, -, -, sent⟩ | ⟨invocation, mid, ran, reads, outcome⟩
  · rw [step_sendTransaction_of_error sent] at answered
    cases answered
  · refine ⟨invocation, mid, ran, reads, ?_⟩
    rcases outcome with ⟨message, failed, sent⟩ | ⟨value, succeeded, sent⟩
    · rw [step_sendTransaction_of_ok sent] at answered
      cases answered
      exact ⟨failed.symm, .inl ⟨⟨message, failed⟩, rfl⟩⟩
    · rw [step_sendTransaction_of_ok sent] at answered
      cases answered
      exact ⟨succeeded.symm, .inr ⟨⟨value, succeeded⟩, rfl⟩⟩

/-- The worker after a send: it panicked or failed, with nothing but reading
done, or applied the changes of its invocation. -/
theorem Worker.step_sendTransaction_env (world : World X) (w : Worker X) (envelopeBytes : X.Buf)
    (hostFunction : HostFunction) (sourceAccount : AccountId) :
    ∃ mid, ForkedEnv.OnlyReads world.client w.env mid ∧
      ((w.step world (.sendTransaction envelopeBytes hostFunction sourceAccount)).2.env = mid ∨
        ∃ changes, (w.step world (.sendTransaction envelopeBytes hostFunction
          sourceAccount)).2.env = mid.applied changes sourceAccount) := by
  rcases sendTransaction_cases world envelopeBytes hostFunction sourceAccount
    ((world.systemTime w.clockReads).getD 0) w.env with
    ⟨panic, mid, -, reads, sent⟩ | ⟨invocation, mid, -, reads, outcome⟩
  · exact ⟨mid, reads, .inl (by rw [step_sendTransaction_of_error sent])⟩
  · rcases outcome with ⟨message, -, sent⟩ | ⟨value, -, sent⟩
    · exact ⟨mid, reads, .inl (by rw [step_sendTransaction_of_ok sent])⟩
    · exact ⟨mid, reads, .inr ⟨_, by rw [step_sendTransaction_of_ok sent]⟩⟩

/-- A command changes the source, the clock and the fee cell only. -/
theorem Worker.step_frame (world : World X) (cmd : Command X) (w : Worker X) :
    (w.step world cmd).2.env =
      { w.env with
        source := (w.step world cmd).2.env.source
        ledger := (w.step world cmd).2.env.ledger
        feeCell := (w.step world cmd).2.env.feeCell } := by
  by_cases readOnly : cmd.ReadOnly
  · rw [(step_onlyReads world w readOnly).1.frame]
  · cases cmd with
    | setLedgerEntry key entry liveUntil => rfl
    | closeLedgers ledgers seconds => rfl
    | sendTransaction envelopeBytes hostFunction sourceAccount =>
        obtain ⟨mid, reads, same | ⟨changes, applied⟩⟩ :=
          w.step_sendTransaction_env world envelopeBytes hostFunction sourceAccount
        · rw [same, reads.frame]
        · rw [applied, ForkedEnv.applied, reads.frame]
    | _ => exact absurd trivial readOnly

/-- No command changes the network. -/
theorem Worker.step_networkId (world : World X) (cmd : Command X) (w : Worker X) :
    (w.step world cmd).2.env.networkId = w.env.networkId := by
  rw [step_frame]

/-- Once the cache holds a key, it holds it for good. -/
theorem Worker.isSome_cached_step (world : World X) (cmd : Command X) {w : Worker X}
    {key : LedgerKey} (held : (w.env.source.cached key).isSome) :
    ((w.step world cmd).2.env.source.cached key).isSome := by
  by_cases readOnly : cmd.ReadOnly
  · exact (step_onlyReads world w readOnly).1.isSome_cached held
  · cases cmd with
    | setLedgerEntry k entry liveUntil =>
        rw [step_setLedgerEntry]
        show ((w.env.source.setEntry k entry liveUntil).cached key).isSome
        rw [RpcSnapshotSource.cached_setEntry]
        by_cases same : key = k
        · rw [same, Function.update_self]
          rfl
        · rwa [Function.update_of_ne same]
    | closeLedgers ledgers seconds => exact held
    | sendTransaction envelopeBytes hostFunction sourceAccount =>
        obtain ⟨mid, reads, same | ⟨changes, applied⟩⟩ :=
          w.step_sendTransaction_env world envelopeBytes hostFunction sourceAccount
        · rw [same]
          exact reads.isSome_cached held
        · rw [applied]
          exact RpcSnapshotSource.isSome_cached_bumpAccountSeq
            (RpcSnapshotSource.isSome_cached_applyChanges _ (reads.isSome_cached held))
    | _ => exact absurd trivial readOnly

/-! ## The server -/

namespace Server

variable {server : Server X} {cmd : Command X}

theorem step_of_ok {reply : cmd.Reply} {w : Worker X} (alive : server.alive = true)
    (ran : server.worker.step world cmd = (.ok reply, w)) :
    server.step world cmd = (.ok reply, ⟨w, true⟩) := by
  simp only [step, alive, ran, if_true]

theorem step_of_dead (dead : server.alive = false) :
    server.step world cmd = (.error .workerGone, server) := by
  simp only [step, dead, Bool.false_eq_true, if_false]

/-- A reply came from the worker, which was alive and still is. -/
theorem step_ok_iff {reply : cmd.Reply} {server' : Server X} :
    server.step world cmd = (.ok reply, server') ↔
      server.alive = true ∧ ∃ w, server.worker.step world cmd = (.ok reply, w) ∧
        server' = ⟨w, true⟩ := by
  constructor
  · intro stepped
    cases alive : server.alive with
    | false =>
        rw [step_of_dead alive] at stepped
        cases stepped
    | true =>
        refine ⟨rfl, ?_⟩
        simp only [step, alive, if_true] at stepped
        rcases ran : server.worker.step world cmd with ⟨panic | r, w⟩
        · rw [ran] at stepped
          cases stepped
        · rw [ran] at stepped
          cases stepped
          exact ⟨w, rfl, rfl⟩
  · rintro ⟨alive, w, ran, rfl⟩
    exact step_of_ok alive ran

/-- The worker of the next state is the worker after the command, or the same
one if it was dead. -/
theorem step_worker (world : World X) (server : Server X) (cmd : Command X) :
    (server.step world cmd).2.worker =
      if server.alive then (server.worker.step world cmd).2 else server.worker := by
  cases alive : server.alive with
  | false => rw [step_of_dead alive, if_neg Bool.false_ne_true]
  | true =>
      simp only [step, alive, if_true]
      rcases server.worker.step world cmd with ⟨panic | r, w⟩ <;> rfl

/-- Only `fork_closeLedgers` moves the clock. -/
theorem ledger_step_of_ne {server : Server X} {cmd : Command X}
    (still : ∀ ledgers seconds, cmd ≠ .closeLedgers ledgers seconds) :
    (server.step world cmd).2.worker.env.ledger = server.worker.env.ledger := by
  rw [step_worker]
  split
  case isFalse => rfl
  case isTrue =>
    by_cases readOnly : cmd.ReadOnly
    · exact (Worker.step_onlyReads world _ readOnly).1.ledger
    cases cmd with
    | setLedgerEntry key entry liveUntil => rfl
    | closeLedgers ledgers seconds => exact absurd rfl (still ledgers seconds)
    | sendTransaction envelopeBytes hostFunction sourceAccount =>
        obtain ⟨mid, reads, same | ⟨changes, applied⟩⟩ :=
          server.worker.step_sendTransaction_env world envelopeBytes hostFunction sourceAccount
        · rw [same]
          exact reads.ledger
        · rw [applied]
          exact reads.ledger
    | _ => exact absurd trivial readOnly

/-- No command changes the protocol or the passphrase. -/
theorem frame_step (world : World X) (server : Server X) (cmd : Command X) :
    (server.step world cmd).2.worker.env.protocolVersion = server.worker.env.protocolVersion ∧
      (server.step world cmd).2.worker.env.passphrase = server.worker.env.passphrase := by
  rw [step_worker]
  split
  case isFalse => exact ⟨rfl, rfl⟩
  case isTrue =>
    rw [Worker.step_frame]
    exact ⟨rfl, rfl⟩

/-- A command that was answered and did nothing to the worker left the server. -/
theorem eq_of_step_ok {server server' : Server X} {cmd : Command X} {reply reply' : cmd.Reply}
    (answers : server.worker.step world cmd = (.ok reply, server.worker))
    (stepped : server.step world cmd = (.ok reply', server')) :
    reply' = reply ∧ server' = server := by
  obtain ⟨alive, w, ran, rfl⟩ := step_ok_iff.mp stepped
  rw [answers] at ran
  cases ran
  obtain ⟨w, _⟩ := server
  cases alive
  exact ⟨rfl, rfl⟩

end Server

end SorobanFork
