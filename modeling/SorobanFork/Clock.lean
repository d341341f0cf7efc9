import Mathlib.Algebra.GroupWithZero.Nat
import SorobanFork.LedgerMetadata

/-!
# Moving the clock

The library moves the clock by `warp`, `warp_time` and `warp_ledger`, a client
by `fork_closeLedgers`.  Each call is to advance the sequence and the close time
by some numbers of ledgers and seconds, `ClockCall.advance`; both counters
saturate.  `clock_of_run` is what a list of calls comes to: the start plus the sum
of the advances, cut off once.

It takes that every `warp_time` is for less than `5 * 2 ^ 32` seconds: the number
of ledgers is cast to a `u32`, so from there on it wraps
(`warpTime_wraps_ledgers`).
-/

namespace SorobanFork

open Lib

/-- A call that moves the clock. -/
inductive ClockCall {X : Xdr} (wire : Wire X) : Type
  | warp (ledgers : UInt32) (seconds : UInt64)
  | warpTime (seconds : UInt64)
  | warpLedger (ledgers : UInt32)
  | closeLedgers (params : wire.Json)

section

variable {X : Xdr} {wire : Wire X}

/-- The server with a fork that a library call has changed. -/
def Server.onEnv (change : ForkedEnv X → ForkedEnv X) (server : Server X) : Server X :=
  { server with worker := { server.worker with env := change server.worker.env } }

/-- The ledgers and seconds that the parameters of `fork_closeLedgers` give, if they parse. -/
def closeLedgersArguments (wire : Wire X) (params : wire.Json) :
    Option (Option UInt32 × Option UInt64) :=
  if wire.isNull params then some (none, none)
  else
    match wire.closeLedgersParams params with
    | .ok parsed => some (parsed.ledgers, parsed.timestampAdvanceSeconds)
    | .error _ => none

namespace ClockCall

/-- Execute a call. -/
def apply (world : World X) (call : ClockCall wire) (server : Server X) : Server X :=
  match call with
  | .warp ledgers seconds => server.onEnv (·.warp ledgers seconds)
  | .warpTime seconds => server.onEnv (·.warpTime seconds)
  | .warpLedger ledgers => server.onEnv (·.warpLedger ledgers)
  | .closeLedgers params => (serve world wire "fork_closeLedgers" params server).2

/-- The ledgers and seconds a call is to advance, as unbounded numbers: time goes
by at 5 seconds a ledger, and `fork_closeLedgers` closes one ledger if it is not
told how many. -/
def advance : ClockCall wire → Nat × Nat
  | .warp ledgers seconds => (ledgers.toNat, seconds.toNat)
  | .warpTime seconds => (seconds.toNat / 5, seconds.toNat)
  | .warpLedger ledgers => (ledgers.toNat, 5 * ledgers.toNat)
  | .closeLedgers params =>
    match closeLedgersArguments wire params with
    | some (ledgers, seconds) =>
      let ledgers := (ledgers.map (·.toNat)).getD 1
      (ledgers, (seconds.map (·.toNat)).getD (5 * ledgers))
    | none => (0, 0)

/-- The ledgers that go by in the seconds of a `warp_time` fit in a `u32`. -/
def Fits : ClockCall wire → Prop
  | .warpTime seconds => seconds.toNat < 5 * 2 ^ 32
  | _ => True

end ClockCall

/-- Execute a list of calls, in order. -/
def runClock (world : World X) (calls : List (ClockCall wire)) (server : Server X) : Server X :=
  calls.foldl (fun server call => call.apply world server) server

variable {world : World X} {server : Server X}

/-! ## One call -/

theorem clock_warp (env : ForkedEnv X) (ledgers : UInt32) (seconds : UInt64) :
    (env.warp ledgers seconds).ledgerSequence.toNat =
        satAdd (2 ^ 32 - 1) env.ledgerSequence.toNat ledgers.toNat ∧
      (env.warp ledgers seconds).ledgerCloseTime.toNat =
        satAdd (2 ^ 64 - 1) env.ledgerCloseTime.toNat seconds.toNat :=
  ⟨toNat_saturatingAdd32 _ _, toNat_saturatingAdd64 _ _⟩

/-- Five seconds a ledger never overflow. -/
theorem toNat_fiveSeconds (ledgers : UInt32) :
    (ledgers.toUInt64 * 5).toNat = 5 * ledgers.toNat := by
  have bounded := ledgers.toNat_lt
  rw [UInt64.toNat_mul, UInt32.toNat_toUInt64, show (5 : UInt64).toNat = 5 from rfl]
  omega

theorem toNat_ledgersIn {seconds : UInt64} (fits : seconds.toNat < 5 * 2 ^ 32) :
    (seconds / ledgerIntervalSeconds).toUInt32.toNat = seconds.toNat / 5 := by
  rw [UInt64.toNat_toUInt32, UInt64.toNat_div, show ledgerIntervalSeconds.toNat = 5 from rfl]
  omega

theorem decodeCloseLedgers_some {params : wire.Json} {ledgers : Option UInt32}
    {seconds : Option UInt64}
    (parsed : closeLedgersArguments wire params = some (ledgers, seconds)) :
    decodeCloseLedgers wire params =
      .ok (ledgers.getD 1, seconds.getD ((ledgers.getD 1).toUInt64 * 5)) := by
  unfold closeLedgersArguments at parsed
  unfold decodeCloseLedgers
  cases null : wire.isNull params with
  | true =>
      rw [null, if_pos rfl] at parsed
      cases parsed
      rfl
  | false =>
      rw [null, if_neg Bool.false_ne_true] at parsed
      rw [if_neg Bool.false_ne_true]
      rcases parses : wire.closeLedgersParams params with e | p
      · rw [parses] at parsed
        cases parsed
      · rw [parses] at parsed
        cases parsed
        rw [parseParams_ok parses]
        rfl

theorem decodeCloseLedgers_none {params : wire.Json}
    (refused : closeLedgersArguments wire params = none) :
    ∃ e, decodeCloseLedgers wire params = .error e := by
  unfold closeLedgersArguments at refused
  unfold decodeCloseLedgers parseParams
  cases null : wire.isNull params with
  | true =>
      rw [null, if_pos rfl] at refused
      cases refused
  | false =>
      rw [null, if_neg Bool.false_ne_true] at refused
      rw [if_neg Bool.false_ne_true]
      rcases parses : wire.closeLedgersParams params with e | p
      · exact ⟨_, rfl⟩
      · rw [parses] at refused
        cases refused

/-- A `fork_closeLedgers` warps the fork of a live server, or is refused. -/
theorem apply_closeLedgers (alive : server.alive = true) (params : wire.Json) :
    ClockCall.apply world (.closeLedgers params) server =
      match closeLedgersArguments wire params with
      | some (ledgers, seconds) => server.onEnv
          (·.warp (ledgers.getD 1) (seconds.getD ((ledgers.getD 1).toUInt64 * 5)))
      | none => server := by
  show (serve world wire "fork_closeLedgers" params server).2 = _
  rw [serve, dispatch_fork_closeLedgers, handleForkCloseLedgers]
  rcases parsed : closeLedgersArguments wire params with _ | ⟨ledgers, seconds⟩
  · obtain ⟨e, refused⟩ := decodeCloseLedgers_none parsed
    rw [refused]
    rfl
  · rw [decodeCloseLedgers_some parsed]
    obtain ⟨w, _⟩ := server
    cases alive
    rfl

theorem alive_apply (call : ClockCall wire) (alive : server.alive = true) :
    (call.apply world server).alive = true := by
  cases call with
  | closeLedgers params =>
      rw [apply_closeLedgers alive]
      cases closeLedgersArguments wire params <;> exact alive
  | _ => exact alive

/-- **One call.**  A call that fits advances both counters as it is to. -/
theorem clock_apply {call : ClockCall wire} (fits : call.Fits) (alive : server.alive = true) :
    (call.apply world server).ledgerSequence.toNat =
        satAdd (2 ^ 32 - 1) server.ledgerSequence.toNat call.advance.1 ∧
      (call.apply world server).ledgerCloseTime.toNat =
        satAdd (2 ^ 64 - 1) server.ledgerCloseTime.toNat call.advance.2 := by
  have warped := clock_warp server.worker.env
  cases call with
  | warp ledgers seconds => exact warped ledgers seconds
  | warpTime seconds =>
      have advanced := warped (seconds / ledgerIntervalSeconds).toUInt32 seconds
      rwa [toNat_ledgersIn fits] at advanced
  | warpLedger ledgers =>
      have advanced := warped ledgers (ledgers.toUInt64 * ledgerIntervalSeconds)
      rwa [show ledgerIntervalSeconds = 5 from rfl, toNat_fiveSeconds] at advanced
  | closeLedgers params =>
      rw [apply_closeLedgers alive, ClockCall.advance]
      rcases closeLedgersArguments wire params with _ | ⟨ledgers, seconds⟩
      · exact ⟨(satAdd_zero (Nat.le_pred_of_lt (UInt32.toNat_lt _))).symm,
          (satAdd_zero (Nat.le_pred_of_lt (UInt64.toNat_lt _))).symm⟩
      · obtain ⟨sequence, closeTime⟩ :=
          warped (ledgers.getD 1) (seconds.getD ((ledgers.getD 1).toUInt64 * 5))
        have ledgersGiven : (ledgers.getD 1).toNat = (ledgers.map (·.toNat)).getD 1 := by
          cases ledgers <;> rfl
        have secondsGiven : (seconds.getD ((ledgers.getD 1).toUInt64 * 5)).toNat =
            (seconds.map (·.toNat)).getD (5 * (ledgers.map (·.toNat)).getD 1) := by
          cases seconds with
          | none => rw [Option.getD_none, toNat_fiveSeconds, ledgersGiven]; rfl
          | some seconds => rfl
        rw [ledgersGiven] at sequence
        rw [secondsGiven] at closeTime
        exact ⟨sequence, closeTime⟩

/-- No call turns the clock back, whether it fits or not. -/
theorem clock_le_apply (call : ClockCall wire) (alive : server.alive = true) :
    server.ledgerSequence.toNat ≤ (call.apply world server).ledgerSequence.toNat ∧
      server.ledgerCloseTime.toNat ≤ (call.apply world server).ledgerCloseTime.toNat := by
  have warped (ledgers : UInt32) (seconds : UInt64) :=
    And.intro (le_saturatingAdd32 server.worker.env.ledger.sequenceNumber ledgers)
      (le_saturatingAdd64 server.worker.env.ledger.timestamp seconds)
  cases call with
  | closeLedgers params =>
      rw [apply_closeLedgers alive]
      rcases closeLedgersArguments wire params with _ | ⟨ledgers, seconds⟩
      · exact ⟨le_rfl, le_rfl⟩
      · exact warped _ _
  | _ => exact warped _ _

/-! ## A run -/

theorem alive_runClock (calls : List (ClockCall wire)) (alive : server.alive = true) :
    (runClock world calls server).alive = true := by
  induction calls generalizing server with
  | nil => exact alive
  | cons call calls ih => exact ih (alive_apply call alive)

theorem runClock_append (calls calls' : List (ClockCall wire)) :
    runClock world (calls ++ calls') server =
      runClock world calls' (runClock world calls server) :=
  List.foldl_append

/-- Each counter is a saturating sum of its advances. -/
theorem clock_runClock {calls : List (ClockCall wire)} (fits : ∀ call ∈ calls, call.Fits)
    (alive : server.alive = true) :
    (runClock world calls server).ledgerSequence.toNat =
        (calls.map (·.advance.1)).foldl (satAdd (2 ^ 32 - 1)) server.ledgerSequence.toNat ∧
      (runClock world calls server).ledgerCloseTime.toNat =
        (calls.map (·.advance.2)).foldl (satAdd (2 ^ 64 - 1)) server.ledgerCloseTime.toNat := by
  induction calls generalizing server with
  | nil => exact ⟨rfl, rfl⟩
  | cons call calls ih =>
      obtain ⟨sequence, closeTime⟩ := @clock_apply _ _ world _ call (fits call (.head _)) alive
      rw [List.map_cons, List.map_cons, List.foldl_cons, List.foldl_cons, ← sequence, ← closeTime]
      exact ih (fun call mem => fits call (.tail _ mem)) (alive_apply call alive)

/-- More seconds never make fewer ledgers, as long as they fit. -/
theorem warpTime_mono {seconds more : UInt64} (alive : server.alive = true)
    (le : seconds.toNat ≤ more.toNat) (fits : more.toNat < 5 * 2 ^ 32) :
    (ClockCall.apply world (.warpTime seconds : ClockCall wire) server).ledgerSequence.toNat ≤
      (ClockCall.apply world (.warpTime more : ClockCall wire) server).ledgerSequence.toNat := by
  have sequence := (@clock_apply _ wire world _ (.warpTime seconds) (le.trans_lt fits) alive).1
  have sequence' := (@clock_apply _ wire world _ (.warpTime more) fits alive).1
  rw [sequence, sequence']
  exact satAdd_mono _ _ (Nat.div_le_div_right le)

/-- **Clock arithmetic.**  A list of calls whose `warp_time`s fit never turns the
clock back, and ends at the start plus the sum of its advances, cut off at the
largest `u32` and the largest `u64`.  So the order of the calls does not matter,
and warping by more seconds never makes fewer ledgers. -/
theorem clock_of_run {calls : List (ClockCall wire)} (fits : ∀ call ∈ calls, call.Fits)
    (alive : server.alive = true) :
    (∀ before call after, calls = before ++ call :: after →
      (runClock world before server).ledgerSequence.toNat ≤
          (runClock world (before ++ [call]) server).ledgerSequence.toNat ∧
        (runClock world before server).ledgerCloseTime.toNat ≤
          (runClock world (before ++ [call]) server).ledgerCloseTime.toNat) ∧
      (runClock world calls server).ledgerSequence.toNat =
        min (2 ^ 32 - 1) (server.ledgerSequence.toNat + (calls.map (·.advance.1)).sum) ∧
      (runClock world calls server).ledgerCloseTime.toNat =
        min (2 ^ 64 - 1) (server.ledgerCloseTime.toNat + (calls.map (·.advance.2)).sum) ∧
      (∀ calls', calls'.Perm calls →
        (runClock world calls' server).ledgerSequence =
            (runClock world calls server).ledgerSequence ∧
          (runClock world calls' server).ledgerCloseTime =
            (runClock world calls server).ledgerCloseTime) ∧
      ∀ seconds more : UInt64, seconds.toNat ≤ more.toNat → more.toNat < 5 * 2 ^ 32 →
        (ClockCall.apply world (.warpTime seconds : ClockCall wire)
            server).ledgerSequence.toNat ≤
          (ClockCall.apply world (.warpTime more : ClockCall wire)
            server).ledgerSequence.toNat := by
  have sequenceBound : server.ledgerSequence.toNat ≤ 2 ^ 32 - 1 :=
    Nat.le_pred_of_lt (UInt32.toNat_lt _)
  have closeTimeBound : server.ledgerCloseTime.toNat ≤ 2 ^ 64 - 1 :=
    Nat.le_pred_of_lt (UInt64.toNat_lt _)
  obtain ⟨sequence, closeTime⟩ := @clock_runClock _ _ world _ _ fits alive
  refine ⟨?_, ?_, ?_, ?_, fun seconds more le => warpTime_mono alive le⟩
  · intro before call after split
    rw [runClock_append]
    exact clock_le_apply call (alive_runClock before alive)
  · rw [sequence, foldl_satAdd sequenceBound, satAdd]
  · rw [closeTime, foldl_satAdd closeTimeBound, satAdd]
  · intro calls' perm
    obtain ⟨sequence', closeTime'⟩ :=
      @clock_runClock _ _ world _ _ (fun call mem => fits call (perm.subset mem)) alive
    constructor
    · apply UInt32.toNat_inj.mp
      rw [sequence', sequence, foldl_satAdd_perm sequenceBound (perm.map _)]
    · apply UInt64.toNat_inj.mp
      rw [closeTime', closeTime, foldl_satAdd_perm closeTimeBound (perm.map _)]

end

/-! ## A `warp_time` that wraps -/

namespace Sample

/-- The clock after one `warp_time`. -/
def warped (seconds : UInt64) : Server xdr :=
  runClock world [(.warpTime seconds : ClockCall (wire []))] (server [])

end Sample

open Sample in
/-- `5 * 2 ^ 32` seconds make no ledger, and one second less makes `2 ^ 32 - 1`. -/
theorem warpTime_wraps_ledgers :
    (warped 21474836480).ledgerSequence = 100 ∧
      (warped 21474836480).ledgerSequence.toNat ≠
        min (2 ^ 32 - 1) ((server []).ledgerSequence.toNat + 21474836480 / 5) ∧
      (warped 21474836480).ledgerSequence < (warped 21474836479).ledgerSequence := by
  decide

open Sample in
theorem clock_of_run_closeLedgers :
    let calls : List (ClockCall (wire [])) := [.warpTime 12, .closeLedgers .null, .warpLedger 3]
    (∀ before call after, calls = before ++ call :: after →
      (runClock world before (server [])).ledgerSequence.toNat ≤
          (runClock world (before ++ [call]) (server [])).ledgerSequence.toNat ∧
        (runClock world before (server [])).ledgerCloseTime.toNat ≤
          (runClock world (before ++ [call]) (server [])).ledgerCloseTime.toNat) ∧
      (runClock world calls (server [])).ledgerSequence.toNat =
        min (2 ^ 32 - 1) ((server []).ledgerSequence.toNat + (calls.map (·.advance.1)).sum) ∧
      (runClock world calls (server [])).ledgerCloseTime.toNat =
        min (2 ^ 64 - 1) ((server []).ledgerCloseTime.toNat + (calls.map (·.advance.2)).sum) ∧
      (∀ calls', calls'.Perm calls →
        (runClock world calls' (server [])).ledgerSequence =
            (runClock world calls (server [])).ledgerSequence ∧
          (runClock world calls' (server [])).ledgerCloseTime =
            (runClock world calls (server [])).ledgerCloseTime) ∧
      ∀ seconds more : UInt64, seconds.toNat ≤ more.toNat → more.toNat < 5 * 2 ^ 32 →
        (ClockCall.apply world (.warpTime seconds : ClockCall (wire []))
            (server [])).ledgerSequence.toNat ≤
          (ClockCall.apply world (.warpTime more : ClockCall (wire []))
            (server [])).ledgerSequence.toNat := by
  intro calls
  have fits : ∀ call ∈ calls, call.Fits := by
    simp only [calls, List.forall_mem_cons]
    exact ⟨(by decide : (12 : UInt64).toNat < 5 * 2 ^ 32), trivial, trivial, nofun⟩
  exact clock_of_run fits rfl

end SorobanFork
