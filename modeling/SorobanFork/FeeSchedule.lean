import SorobanFork.Persistence

/-!
# Which fee schedule a simulation uses

`fee_configuration` decodes the schedule from the ledger once and keeps it in a
write-once cell.  So a simulation reports the fee under the schedule that the
ledger held when the first simulation of the run reported one
(`fee_of_first_resolution`); this is the current schedule as long as none of the
six entries was written since, and need not be after that
(`rewritten_schedule_is_ignored`).
-/

namespace SorobanFork

open Lib

section

variable {X : Xdr}

/-- The fee of a simulation under a schedule. -/
def feeUnder (world : World X) (reply : SimulationReply) (size : UInt32)
    (cfg : FeeConfiguration) : Int64 :=
  let (nonRefundable, refundable) := world.computeTransactionResourceFee
    (transactionResources (X := X) reply.resources reply.contractEvents size) cfg
  saturatingAddI64 nonRefundable refundable

/-- The fee that a reply reports, if it is that of a simulation. -/
def reportedFee (reply : Σ cmd : Command X, Except ActorError cmd.Reply) : Option Int64 :=
  match reply with
  | ⟨.simulateTransaction _ _ _, .ok reply⟩ => reply.minResourceFee
  | _ => none

/-- What a reply shows under a key. -/
def LedgerEntriesReply.shown (reply : LedgerEntriesReply) (key : LedgerKey) :
    Option EntryWithLiveUntil :=
  reply.entries.findSome? fun entry => (entry.filter fun found => found.1 = key).map (·.2)

/-- The schedule decoded from the six entries that `GetLedgerEntries` returns in
this state, if it can be decoded. -/
def Server.shownSchedule (world : World X) (server : Server X) : Option FeeConfiguration :=
  match (server.step world (.getLedgerEntries feeKeys)).1 with
  | .ok reply => (fetchFeeConfiguration.run.value reply.shown).toOption
  | .error _ => none

/-- A command that writes none of the six entries. -/
def Server.LeavesSchedule (world : World X) (server : Server X) (cmd : Command X) : Prop :=
  ∀ key ∈ feeKeys, ¬server.WritesKey world key cmd

/-- The cache holds the six entries, and they decode to `cfg`. -/
structure RpcSnapshotSource.HoldsSchedule (s : RpcSnapshotSource X) (cfg : FeeConfiguration) :
    Prop where
  cached : ∀ key ∈ feeKeys, s.cached key = some (s.cached key).join
  decoded : fetchFeeConfiguration.run.value (fun key => (s.cached key).join) = .ok cfg

variable {world : World X} {env env' : ForkedEnv X} {server : Server X} {cfg : FeeConfiguration}

/-! ## The schedule in the cache -/

theorem shown_of_mem {ledger : LedgerKey → Option EntryWithLiveUntil} {keys : List LedgerKey}
    {latestLedger : UInt32} {key : LedgerKey} (mem : key ∈ keys) :
    LedgerEntriesReply.shown
      ⟨keys.map fun key => (ledger key).map fun entry => (key, entry), latestLedger⟩ key =
      ledger key := by
  have look (k : LedgerKey) :
      ((((ledger k).map fun entry => (k, entry)).filter fun found => found.1 = key).map (·.2)) =
        if k = key then ledger key else none := by
    by_cases same : k = key
    · subst same
      cases ledger k <;> simp
    · cases ledger k <;> simp [same]
  simp only [LedgerEntriesReply.shown, List.findSome?_map, Function.comp_def, look]
  cases found : ledger key with
  | none => exact List.findSome?_eq_none_iff.mpr fun k _ => by split <;> rfl
  | some entry =>
      have some : (keys.findSome? fun k => if k = key then some entry else none).isSome :=
        List.findSome?_isSome_iff.mpr ⟨key, mem, by rw [if_pos rfl]; rfl⟩
      obtain ⟨value, first⟩ := Option.isSome_iff_exists.mp some
      obtain ⟨k, -, shown⟩ := List.exists_of_findSome?_eq_some first
      rw [first, ← shown]
      split at shown
      · rename_i same
        rw [if_pos same]
      · cases shown

/-- A live server shows the schedule its cache holds. -/
theorem shownSchedule_of_holds (alive : server.alive = true)
    (holds : server.worker.env.source.HoldsSchedule cfg) :
    server.shownSchedule world = some cfg := by
  obtain ⟨cached, decoded⟩ := holds
  generalize held : (fun key => (server.worker.env.source.cached key).join) = ledger at decoded
  have read : server.worker.env.read world (resolveLedgerEntries feeKeys) =
      (.ok (feeKeys.map fun key => (ledger key).map fun entry => (key, entry)),
        server.worker.env) := by
    rw [ForkedEnv.read, RpcSnapshotSource.read_of_asked_cached, value_resolveLedgerEntries, ← held]
    rwa [asked_resolveLedgerEntries]
  have replied : server.worker.step world (.getLedgerEntries feeKeys) =
      (.ok ⟨feeKeys.map fun key => (ledger key).map fun entry => (key, entry),
        server.worker.env.ledgerSequence⟩, server.worker) := by
    rw [Worker.step, read]
  have agree : ∀ key ∈ fetchFeeConfiguration.run.asked ledger,
      ledger key = LedgerEntriesReply.shown
        ⟨feeKeys.map fun key => (ledger key).map fun entry => (key, entry),
          server.worker.env.ledgerSequence⟩ key :=
    fun key mem => (shown_of_mem (mem_feeKeys_of_asked mem)).symm
  rw [Server.shownSchedule, Server.step_of_ok alive replied]
  show (fetchFeeConfiguration.run.value _).toOption = _
  rw [← (fetchFeeConfiguration.run).value_congr agree, decoded]
  rfl

/-- A command that writes none of the six entries leaves the schedule as it is. -/
theorem holdsSchedule_step {cmd : Command X} (leaves : server.LeavesSchedule world cmd)
    (holds : server.worker.env.source.HoldsSchedule cfg) :
    (server.step world cmd).2.worker.env.source.HoldsSchedule cfg := by
  have kept : ∀ key ∈ feeKeys, (server.step world cmd).2.worker.env.source.cached key =
      server.worker.env.source.cached key := by
    intro key mem
    have notAccount : ∀ id, key ≠ .account id := by
      rintro id rfl
      obtain ⟨setting, -, same⟩ := List.mem_map.mp mem
      cases same
    rw [Server.cached_step_of_not_writesKey (leaves key mem) notAccount (holds.cached key mem),
      ← holds.cached key mem]
  refine ⟨fun key mem => ?_, ?_⟩
  · rw [kept key mem]
    exact holds.cached key mem
  · rw [← holds.decoded]
    refine ((fetchFeeConfiguration.run).value_congr fun key mem => ?_).symm
    rw [kept key (mem_feeKeys_of_asked mem)]

/-! ## The cell -/

/-- A schedule that was resolved is in the cell.  It was there before, or the
cache now holds it. -/
theorem feeConfiguration_ok
    (resolved : env.feeConfiguration world = (.ok (.ok cfg), env')) :
    env'.feeCell = some cfg ∧
      (env.feeCell = some cfg ∨ env.feeCell = none ∧ env'.source.HoldsSchedule cfg) := by
  obtain ⟨held, cell, same⟩ | ⟨cell, result, mid, ran, outcome⟩ := env.feeConfiguration_cases world
  · rw [same] at resolved
    cases resolved
    exact ⟨cell, .inl cell⟩
  · obtain ⟨found, rfl, same⟩ | ⟨failed, same⟩ := outcome
    · rw [same] at resolved
      cases resolved
      have inSource : env.source.read world.client fetchFeeConfiguration.run =
          (.ok (.ok cfg), mid.source) := ForkedEnv.source_of_read ran
      obtain ⟨decoded, cached⟩ := RpcSnapshotSource.asked_of_read inSource
      rw [asked_eq_feeKeys decoded] at cached
      exact ⟨rfl, .inr ⟨cell, cached, decoded⟩⟩
    · rw [same] at resolved
      exact absurd (congrArg Prod.fst resolved) (failed cfg)

/-- A schedule that was not resolved leaves the cell as it is. -/
theorem feeCell_feeConfiguration {result : Except Panic (Except FeeError FeeConfiguration)}
    (resolved : env.feeConfiguration world = (result, env'))
    (failed : ∀ cfg, result ≠ .ok (.ok cfg)) : env'.feeCell = env.feeCell := by
  obtain ⟨held, -, same⟩ | ⟨-, read, mid, ran, outcome⟩ := env.feeConfiguration_cases world
  · rw [same] at resolved
    exact absurd (congrArg Prod.fst resolved).symm (failed held)
  · obtain ⟨found, -, same⟩ | ⟨-, same⟩ := outcome
    · rw [same] at resolved
      exact absurd (congrArg Prod.fst resolved).symm (failed found)
    · rw [same] at resolved
      cases resolved
      exact (congrArg (fun o => o.2.feeCell) ran).symm

/-- A simulation either reports no fee and leaves the cell as it is, or reports
the fee under the schedule that is in the cell afterwards. -/
theorem simulateTransaction_fee {hostFunction : HostFunction} {sourceAccount : AccountId}
    {size : UInt32} {result : Except Panic SimulationReply}
    (simulated : simulateTransaction world hostFunction sourceAccount size env = (result, env')) :
    (env'.feeCell = env.feeCell ∧ ∀ reply, result = .ok reply → reply.minResourceFee = none) ∨
      ∃ reply cfg, result = .ok reply ∧
        reply.minResourceFee = some (feeUnder world reply size cfg) ∧
        env'.feeCell = some cfg ∧
        (env.feeCell = some cfg ∨ env.feeCell = none ∧ env'.source.HoldsSchedule cfg) := by
  unfold simulateTransaction at simulated
  rcases ran : env.read world (world.invoke env.ledger hostFunction sourceAccount) with
    ⟨panic | invocation, mid⟩
  · rw [ran] at simulated
    cases simulated
    exact .inl ⟨(congrArg (fun o => o.2.feeCell) ran).symm, nofun⟩
  · have sameCell : mid.feeCell = env.feeCell := (congrArg (fun o => o.2.feeCell) ran).symm
    rw [ran] at simulated
    rcases outcome : invocation.result with e | rec
    · simp only [outcome] at simulated
      cases simulated
      refine .inl ⟨sameCell, ?_⟩
      rintro reply same
      cases same
      rfl
    · simp only [outcome, computeMinResourceFee] at simulated
      rcases fees : mid.feeConfiguration world with ⟨panic | e | cfg, last⟩
      · simp only [fees] at simulated
        cases simulated
        exact .inl ⟨(feeCell_feeConfiguration fees nofun).trans sameCell, nofun⟩
      · simp only [fees] at simulated
        cases simulated
        refine .inl ⟨(feeCell_feeConfiguration fees nofun).trans sameCell, ?_⟩
        rintro reply same
        cases same
        rfl
      · simp only [fees] at simulated
        cases simulated
        have cell := feeConfiguration_ok fees
        rw [sameCell] at cell
        exact .inr ⟨_, cfg, rfl, rfl, cell⟩

/-- Only simulations touch the cell. -/
theorem Worker.feeCell_step (world : World X) (w : Worker X) {cmd : Command X}
    (notSimulation : ∀ hostFunction sourceAccount size,
      cmd ≠ .simulateTransaction hostFunction sourceAccount size) :
    (w.step world cmd).2.env.feeCell = w.env.feeCell := by
  cases cmd with
  | simulateTransaction hostFunction sourceAccount size => exact absurd rfl (notSimulation _ _ _)
  | getLedgerEntries keys =>
      rw [step]
      have cell : (w.env.read world (resolveLedgerEntries keys)).2.feeCell = w.env.feeCell := rfl
      generalize w.env.read world (resolveLedgerEntries keys) = outcome at cell
      rcases outcome with ⟨panic | entries, env⟩ <;> exact cell
  | sendTransaction envelopeBytes hostFunction sourceAccount =>
      have cell : (w.env.read world
          (world.invoke w.env.ledger hostFunction sourceAccount)).2.feeCell = w.env.feeCell := rfl
      rcases sendTransaction_cases world envelopeBytes hostFunction sourceAccount
        ((world.systemTime w.clockReads).getD 0) w.env with
        ⟨panic, mid, ran, -, sent⟩ | ⟨invocation, mid, ran, -, outcome⟩
      · rw [ran] at cell
        rw [step_sendTransaction_of_error sent]
        exact cell
      · rw [ran] at cell
        rcases outcome with ⟨message, -, sent⟩ | ⟨value, -, sent⟩
        · rw [step_sendTransaction_of_ok sent]
          exact cell
        · rw [step_sendTransaction_of_ok sent]
          exact cell
  | _ => rfl

/-- **What a command does to the cell.**  It reports no fee and leaves the cell,
or it is a simulation that reports the fee under the schedule in the cell
afterwards. -/
theorem Server.step_fee (world : World X) (server : Server X) (cmd : Command X) :
    ((server.step world cmd).2.worker.env.feeCell = server.worker.env.feeCell ∧
        reportedFee ⟨cmd, (server.step world cmd).1⟩ = none) ∨
      ∃ hostFunction sourceAccount size reply server' cfg,
        cmd = .simulateTransaction hostFunction sourceAccount size ∧
        server.step world (.simulateTransaction hostFunction sourceAccount size) =
          (.ok reply, server') ∧
        reply.minResourceFee = some (feeUnder world reply size cfg) ∧
        server'.worker.env.feeCell = some cfg ∧
        (server.worker.env.feeCell = some cfg ∨
          server.worker.env.feeCell = none ∧ server'.worker.env.source.HoldsSchedule cfg) := by
  by_cases simulation : ∃ hostFunction sourceAccount size,
      cmd = .simulateTransaction hostFunction sourceAccount size
  · obtain ⟨hostFunction, sourceAccount, size, rfl⟩ := simulation
    cases alive : server.alive with
    | false =>
        rw [step_of_dead alive]
        exact .inl ⟨rfl, rfl⟩
    | true =>
        rcases simulated : SorobanFork.simulateTransaction world hostFunction sourceAccount size
          server.worker.env with ⟨result, env'⟩
        have stepped : server.worker.step world
            (.simulateTransaction hostFunction sourceAccount size) =
            (result, { server.worker with env := env' }) := by
          rw [Worker.step, simulated]
          rfl
        rcases simulateTransaction_fee simulated with
          ⟨cell, noFee⟩ | ⟨reply, cfg, rfl, fee, cell, before⟩
        · refine .inl ⟨?_, ?_⟩
          · rw [step_worker, alive, if_pos rfl, stepped, cell]
          · cases result with
            | error panic => simp only [step, alive, stepped]; rfl
            | ok reply =>
                rw [step_of_ok alive stepped]
                exact noFee reply rfl
        · exact .inr ⟨_, _, _, reply, _, cfg, rfl, step_of_ok alive stepped, fee, cell, before⟩
  · refine .inl ⟨?_, ?_⟩
    · rw [step_worker]
      split
      · exact Worker.feeCell_step world _ fun _ _ _ same => simulation ⟨_, _, _, same⟩
      · rfl
    · cases cmd with
      | simulateTransaction hostFunction sourceAccount size =>
          exact absurd ⟨_, _, _, rfl⟩ simulation
      | _ => rfl

/-! ## Runs -/

/-- The first simulation of a run that reported a fee did so under `cfg`, which
the ledger held then; the cache holds it still if nothing has written the six
entries since. -/
def ResolvedAs (world : World X) (server : Server X) (cmds : List (Command X))
    (cfg : FeeConfiguration) : Prop :=
  ∃ before sim after, cmds = before ++ sim :: after ∧
    (∀ reply ∈ ((Server.machine world).run before server).1, reportedFee reply = none) ∧
    (reportedFee
      ⟨sim, (((Server.machine world).run before server).2.step world sim).1⟩).isSome ∧
    ((Server.machine world).run (before ++ [sim]) server).2.shownSchedule world = some cfg ∧
    ((Server.machine world).AllSteps (Server.LeavesSchedule world) after
        ((Server.machine world).run (before ++ [sim]) server).2 →
      ((Server.machine world).run cmds server).2.worker.env.source.HoldsSchedule cfg)

theorem run_snoc (cmds : List (Command X)) (cmd : Command X) :
    (Server.machine world).run (cmds ++ [cmd]) server =
      (((Server.machine world).run cmds server).1 ++
          [⟨cmd, (((Server.machine world).run cmds server).2.step world cmd).1⟩],
        (((Server.machine world).run cmds server).2.step world cmd).2) :=
  (Server.machine world).run_append cmds [cmd] server

theorem ResolvedAs.snoc {cmds : List (Command X)} (resolved : ResolvedAs world server cmds cfg)
    (cmd : Command X) : ResolvedAs world server (cmds ++ [cmd]) cfg := by
  obtain ⟨before, sim, after, rfl, first, reported, shown, holds⟩ := resolved
  refine ⟨before, sim, after ++ [cmd], by simp, first, reported, shown, fun allowed => ?_⟩
  obtain ⟨allowed, last⟩ := (Server.machine world).allSteps_append.mp allowed
  have sameState : ((Server.machine world).run after
      ((Server.machine world).run (before ++ [sim]) server).2).2 =
      ((Server.machine world).run (before ++ sim :: after) server).2 := by
    have appended := (Server.machine world).run_append (before ++ [sim]) after server
    rw [List.append_cons before sim after, appended]
  rw [sameState] at last
  rw [run_snoc]
  exact holdsSchedule_step last.1 (holds allowed)

/-- A simulation that fills the cell is the first of its run that reports a fee. -/
theorem ResolvedAs.of_first {cmds : List (Command X)} {sim : Command X}
    (first : ∀ reply ∈ ((Server.machine world).run cmds server).1, reportedFee reply = none)
    (reported : (reportedFee
      ⟨sim, (((Server.machine world).run cmds server).2.step world sim).1⟩).isSome)
    (alive : ((Server.machine world).run (cmds ++ [sim]) server).2.alive = true)
    (holds : ((Server.machine world).run (cmds ++ [sim])
      server).2.worker.env.source.HoldsSchedule cfg) :
    ResolvedAs world server (cmds ++ [sim]) cfg :=
  ⟨cmds, sim, [], rfl, first, reported, shownSchedule_of_holds alive holds, fun _ => holds⟩

/-- **The run lemma.**  Either no simulation reported a fee yet and the cell is
empty, or the cell holds the schedule of the first one that did. -/
theorem feeCell_run (unresolved : server.worker.env.feeCell = none) (cmds : List (Command X)) :
    (((Server.machine world).run cmds server).2.worker.env.feeCell = none ∧
        ∀ reply ∈ ((Server.machine world).run cmds server).1, reportedFee reply = none) ∨
      ∃ cfg, ((Server.machine world).run cmds server).2.worker.env.feeCell = some cfg ∧
        ResolvedAs world server cmds cfg := by
  induction cmds using List.reverseRecOn with
  | nil => exact .inl ⟨unresolved, fun reply mem => absurd mem List.not_mem_nil⟩
  | append_singleton cmds cmd ih =>
      rcases Server.step_fee world ((Server.machine world).run cmds server).2 cmd with
        ⟨cell, noFee⟩ | ⟨_, _, _, reply, server', cfg, rfl, stepped, fee, cell, before⟩
      · rcases ih with ⟨empty, noneBefore⟩ | ⟨cfg, held, resolved⟩
        · refine .inl ⟨by rw [run_snoc, cell, empty], fun reply mem => ?_⟩
          rw [run_snoc] at mem
          rcases List.mem_append.mp mem with mem | mem
          · exact noneBefore reply mem
          · rw [List.mem_singleton.mp mem]
            exact noFee
        · exact .inr ⟨cfg, by rw [run_snoc, cell, held], resolved.snoc cmd⟩
      · refine .inr ⟨cfg, by rw [run_snoc, stepped, cell], ?_⟩
        rcases ih with ⟨empty, noneBefore⟩ | ⟨held, inCell, resolved⟩
        · have holds := (before.resolve_left (by simp [empty])).2
          have alive := (Server.step_ok_iff.mp stepped).2
          refine .of_first noneBefore ?_ ?_ ?_
          · rw [stepped, reportedFee, fee]
            rfl
          · obtain ⟨w, -, rfl⟩ := alive
            rw [run_snoc, stepped]
          · rw [run_snoc, stepped]
            exact holds
        · have same : held = cfg := by
            rcases before with filled | ⟨empty, -⟩
            · exact Option.some.inj (inCell.symm.trans filled)
            · rw [empty] at inCell
              cases inCell
          exact same ▸ resolved.snoc _

/-- **Fees follow the first resolution.**  In a run from a fork whose schedule
is not resolved yet, a simulation that reports a fee reports it under the
schedule that `GetLedgerEntries` shows right after the first simulation of the
run that reported one; it is the schedule shown now, if no command since then
wrote one of the six entries. -/
theorem fee_of_first_resolution (unresolved : server.worker.env.feeCell = none)
    (cmds : List (Command X)) {hostFunction : HostFunction} {sourceAccount : AccountId}
    {size : UInt32} {reply : SimulationReply} {server' : Server X} {fee : Int64}
    (simulated : ((Server.machine world).run cmds server).2.step world
      (.simulateTransaction hostFunction sourceAccount size) = (.ok reply, server'))
    (reported : reply.minResourceFee = some fee) :
    ∃ before sim after cfg,
      cmds ++ [.simulateTransaction hostFunction sourceAccount size] = before ++ sim :: after ∧
      (∀ reply ∈ ((Server.machine world).run before server).1, reportedFee reply = none) ∧
      (reportedFee
        ⟨sim, (((Server.machine world).run before server).2.step world sim).1⟩).isSome ∧
      ((Server.machine world).run (before ++ [sim]) server).2.shownSchedule world = some cfg ∧
      fee = feeUnder world reply size cfg ∧
      ((Server.machine world).AllSteps (Server.LeavesSchedule world) after
          ((Server.machine world).run (before ++ [sim]) server).2 →
        server'.shownSchedule world = some cfg) := by
  have alive : server'.alive = true := by
    obtain ⟨-, w, -, rfl⟩ := Server.step_ok_iff.mp simulated
    rfl
  have step := ((Server.machine world).run cmds server).2.step_fee world
    (.simulateTransaction hostFunction sourceAccount size)
  rw [simulated] at step
  rcases step with ⟨-, noFee⟩ | ⟨_, _, _, reply', _, cfg, same, stepped, fee', cell, -⟩
  · have fee : reply.minResourceFee = none := noFee
    rw [reported] at fee
    cases fee
  · cases same
    rw [simulated] at stepped
    cases stepped
    rcases feeCell_run unresolved (cmds ++ [.simulateTransaction hostFunction sourceAccount size])
      with ⟨empty, -⟩ | ⟨held, inCell, before, sim, after, split, first, filled, shown, holds⟩
    · rw [run_snoc, simulated, cell] at empty
      cases empty
    · rw [run_snoc, simulated, cell] at inCell
      cases inCell
      rw [run_snoc cmds, simulated] at holds
      refine ⟨before, sim, after, cfg, split, first, filled, shown, ?_, fun leaves =>
        shownSchedule_of_holds alive (holds leaves)⟩
      exact Option.some.inj (reported.symm.trans fee')

end

/-! ## A schedule that changes -/

namespace Sample

/-- A host that charges the bandwidth rate of the schedule, whatever is used. -/
def worldFees : World xdr :=
  { world with computeTransactionResourceFee := fun _ cfg => (cfg.feePerTransactionSize1kb, 0) }

def setting (id : ConfigSettingId) (entry : ConfigSettingEntry) :
    LedgerKey × LedgerEntry × Option UInt32 :=
  (.configSetting id, ⟨1, .configSetting entry, .v0⟩, none)

/-- A fork whose cache holds a schedule with bandwidth rate 1. -/
def feeServer : Server xdr :=
  server
    [setting .contractComputeV0 (.contractComputeV0 ⟨0, 0, 0, 0⟩),
      setting .contractLedgerCostV0 (.contractLedgerCostV0 0 0 0 []),
      setting .contractLedgerCostExtV0 (.contractLedgerCostExtV0 0 []),
      setting .contractHistoricalDataV0 (.contractHistoricalDataV0 0),
      setting .contractEventsV0 (.contractEventsV0 0 []),
      setting .contractBandwidthV0 (.contractBandwidthV0 1 [])]

def simulate : Command xdr := .simulateTransaction (call "noop" []) (account 1) 100

/-- Set the bandwidth rate to 2. -/
def raiseFee : Command xdr :=
  .setLedgerEntry (.configSetting .contractBandwidthV0)
    ⟨2, .configSetting (.contractBandwidthV0 2 []), .v0⟩ none

end Sample

open Sample in
/-- A simulation, a new bandwidth rate, and the simulation again: it reports the
old fee, while the six entries that the fork shows give the new one. -/
theorem rewritten_schedule_is_ignored :
    ∃ reply server' cfg,
      ((Server.machine worldFees).run [simulate, raiseFee] feeServer).2.step worldFees
        (.simulateTransaction (call "noop" []) (account 1) 100) = (.ok reply, server') ∧
      reply.minResourceFee = some 1 ∧
      server'.shownSchedule worldFees = some cfg ∧ feeUnder worldFees reply 100 cfg = 2 :=
  ⟨_, _, _, rfl, rfl, rfl, by decide⟩

open Sample in
theorem fee_of_first_resolution_repeated :
    ∃ reply server',
      ((Server.machine worldFees).run [simulate] feeServer).2.step worldFees
        (.simulateTransaction (call "noop" []) (account 1) 100) = (.ok reply, server') ∧
      ∃ before sim after cfg,
        [simulate] ++ [.simulateTransaction (call "noop" []) (account 1) 100] =
          before ++ sim :: after ∧
        (∀ reply ∈ ((Server.machine worldFees).run before feeServer).1,
          reportedFee reply = none) ∧
        (reportedFee ⟨sim, (((Server.machine worldFees).run before feeServer).2.step worldFees
          sim).1⟩).isSome ∧
        ((Server.machine worldFees).run (before ++ [sim]) feeServer).2.shownSchedule worldFees =
          some cfg ∧
        1 = feeUnder worldFees reply 100 cfg ∧
        ((Server.machine worldFees).AllSteps (Server.LeavesSchedule worldFees) after
            ((Server.machine worldFees).run (before ++ [sim]) feeServer).2 →
          server'.shownSchedule worldFees = some cfg) :=
  ⟨_, _, rfl, fee_of_first_resolution rfl [simulate] rfl rfl⟩

end SorobanFork
