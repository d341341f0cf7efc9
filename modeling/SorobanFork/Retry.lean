import Mathlib.Order.Bounds.Basic
import SorobanFork.Lib.Translate
import SorobanFork.Rpc

/-!
# The retry budget

`Rpc.lean` leaves out the delays between attempts.  Here is the loop of `rpc_post`
with them, over the attempt numbers that `0..total_attempts` gives; without the
delays it is `rpcPost` (`translate_rpcPostTimed`).

A call makes attempts until one succeeds or fails for good, or until there were
`retries + 1` of them, and gives the outcome of the last one
(`honoursBudget_iff`).  It takes that `retries + 1` is a `u32`.
-/

namespace SorobanFork

open Lib

/-- What a call does: an attempt at the request, or a delay with a backoff number. -/
inductive RetryCall (Q : Type) : Type
  | tryOnce (request : Q)
  | sleep (attempt : Nat)

/-- What comes back. -/
abbrev RetryCall.Reply {Q : Type} (α : Type) : RetryCall Q → Type
  | .tryOnce _ => Attempt α
  | .sleep _ => Unit

/-- A program that makes attempts and sleeps. -/
abbrev TimedPosts (Q α β : Type) : Type :=
  Prog (RetryCall Q) (RetryCall.Reply α) (Except RpcFailure β)

section Loop

variable {Q α : Type}

/-- The loop of `rpc_post`, over the attempt numbers left; `exhausted` is the error
after it if there was no other. -/
def retryLoop (exhausted : ForkError) (request : Q) (totalAttempts : UInt32) :
    List UInt32 → Option ForkError → TimedPosts Q α (JsonRpcResponse α)
  | [], lastError => .ret (.error (.error (lastError.getD exhausted)))
  | attempt :: rest, _ =>
    .ask (.tryOnce request) fun
      | .ok parsed => .ret (.ok parsed)
      | .error (.retry e) =>
        -- an attempt number is below the total, so this sum is a `u32`
        if attempt + 1 < totalAttempts then
          .ask (.sleep attempt.toNat) fun _ =>
            retryLoop exhausted request totalAttempts rest (some e)
        else .ret (.error (.error e))
      | .error (.fatal e) => .ret (.error (.error e))

/-- The attempt numbers from `first` on. -/
def attemptNumbers (first count : Nat) : List UInt32 := (List.range' first count).map UInt32.ofNat

/-- `rpc_post`, with the error after the loop as a parameter. -/
def rpcPostOr (exhausted : ForkError) (overflowChecks : Bool) (config : RpcConfig) (request : Q) :
    TimedPosts Q α (JsonRpcResponse α) :=
  if overflowChecks && config.retries == UInt32.ofNat (2 ^ 32 - 1) then
    .ret (.error (.panic "attempt to add with overflow"))
  else
    let totalAttempts := config.retries + 1
    retryLoop exhausted request totalAttempts (attemptNumbers 0 totalAttempts.toNat) none

def rpcPostTimed (overflowChecks : Bool) (config : RpcConfig) (request : Q) :
    TimedPosts Q α (JsonRpcResponse α) :=
  rpcPostOr (.transport "retry loop exhausted with no recorded error") overflowChecks config request

/-- Make the attempts and leave the delays out. -/
def withoutDelays : (call : RetryCall Q) → Prog Q (fun _ => Attempt α) (call.Reply α)
  | .tryOnce request => .query request
  | .sleep _ => .ret ()

end Loop

section

variable {Q α : Type} {exhausted : ForkError} {overflowChecks : Bool} {config : RpcConfig}
  {request : Q} {totalAttempts : UInt32} {first count : Nat}

theorem attemptNumbers_succ (first count : Nat) :
    attemptNumbers first (count + 1) = UInt32.ofNat first :: attemptNumbers (first + 1) count := rfl

/-- A number below the total is not cut off by a `u32`. -/
theorem toNat_attempt (total : first + (count + 1) = totalAttempts.toNat) :
    (UInt32.ofNat first).toNat = first := by
  have bounded := totalAttempts.toNat_lt
  apply UInt32.toNat_ofNat_of_lt'
  show first < 2 ^ 32
  omega

/-- There is another attempt if there are attempt numbers left. -/
theorem attempt_lt_iff (total : first + (count + 1) = totalAttempts.toNat) :
    UInt32.ofNat first + 1 < totalAttempts ↔ 0 < count := by
  have bounded := totalAttempts.toNat_lt
  rw [UInt32.lt_iff_toNat_lt, UInt32.toNat_add, toNat_attempt total, UInt32.toNat_one]
  omega

theorem rpcPostOr_of_ne (fits : config.retries ≠ UInt32.ofNat (2 ^ 32 - 1)) :
    (rpcPostOr exhausted overflowChecks config request : TimedPosts Q α (JsonRpcResponse α)) =
      retryLoop exhausted request (config.retries + 1)
        (attemptNumbers 0 (config.retries.toNat + 1)) none := by
  rw [rpcPostOr, noOverflow_of_ne fits, ← toNat_totalAttempts fits]
  rfl

/-! ## Without the delays -/

theorem translate_retryLoop (total : first + count = totalAttempts.toNat)
    (lastError : Option ForkError) :
    (retryLoop (.transport "retry loop exhausted with no recorded error") request totalAttempts
        (attemptNumbers first count) lastError : TimedPosts Q α (JsonRpcResponse α)).translate
          withoutDelays =
      attempts request count lastError := by
  induction count generalizing first lastError with
  | zero => rfl
  | succ count ih =>
      rw [attemptNumbers_succ, retryLoop, attempts]
      refine congrArg (Prog.ask request) (funext fun outcome => ?_)
      rcases outcome with (e | e) | parsed
      · by_cases left : 0 < count
        · simp only [(attempt_lt_iff total).mpr left, left, if_true]
          exact ih (by omega) (some e)
        · simp only [mt (attempt_lt_iff total).mp left, left, if_false]
          rfl
      · rfl
      · rfl

/-- **The delays change no result**: without them the loop is `rpcPost`. -/
theorem translate_rpcPostTimed (overflowChecks : Bool) (config : RpcConfig) (request : Q) :
    (rpcPostTimed overflowChecks config request : TimedPosts Q α (JsonRpcResponse α)).translate
        withoutDelays =
      rpcPost overflowChecks config request := by
  rw [rpcPostTimed, rpcPostOr, rpcPost]
  split
  · rfl
  · exact translate_retryLoop (Nat.zero_add _) none

end

/-! ## The attempts of a call -/

section Call

variable {Q α : Type}

/-- An attempt that there is none after: it succeeded, or failed for good. -/
def Attempt.Ends : Attempt α → Prop
  | .error (.retry _) => False
  | _ => True

/-- What a call returns if this was its last attempt. -/
def Attempt.result : Attempt α → Except RpcFailure (JsonRpcResponse α)
  | .ok parsed => .ok parsed
  | .error (.retry e) => .error (.error e)
  | .error (.fatal e) => .error (.error e)

/-- Attempts come out one after another as `outcomes` says; the state counts them. -/
def serveOutcomes (outcomes : Nat → Attempt α) :
    (call : RetryCall Q) → Nat → Except Empty (call.Reply α) × Nat
  | .tryOnce _, made => (.ok (outcomes made), made + 1)
  | .sleep _, made => (.ok (), made)

/-- An attempt, and then `retries` times a delay and another attempt, with what came out. -/
def schedule (request : Q) (outcomes : Nat → Attempt α) (first : Nat) :
    Nat → List ((call : RetryCall Q) × call.Reply α)
  | 0 => [⟨.tryOnce request, outcomes first⟩]
  | retries + 1 =>
    ⟨.tryOnce request, outcomes first⟩ :: ⟨.sleep first, ()⟩ ::
      schedule request outcomes (first + 1) retries

/-- A call makes `made` attempts, no more than its budget, and gives the outcome of
the last one. -/
structure HonoursBudget (overflowChecks : Bool) (config : RpcConfig) (request : Q)
    (outcomes : Nat → Attempt α) (made : Nat) : Prop where
  /-- The first outcome that ends the call ends it, if the budget goes that far. -/
  ends : ∀ i, IsLeast {j | Attempt.Ends (outcomes j)} i →
    made = min (i + 1) (config.retries.toNat + 1)
  /-- If there is none, the budget does. -/
  runsOut : (∀ i, ¬Attempt.Ends (outcomes i)) → made = config.retries.toNat + 1
  /-- There is one delay between an attempt and the next. -/
  called : (rpcPostTimed overflowChecks config request).run (Prog.logged (serveOutcomes outcomes))
      (0, []) =
    (.ok (Attempt.result (outcomes (made - 1))), made, schedule request outcomes 0 (made - 1))
  /-- The error after the loop is never returned: it may be any. -/
  unexhausted : ∀ other : ForkError,
    (rpcPostOr other overflowChecks config request : TimedPosts Q α (JsonRpcResponse α)) =
      rpcPostTimed overflowChecks config request

variable {exhausted : ForkError} {overflowChecks : Bool} {config : RpcConfig} {request : Q}
  {outcomes : Nat → Attempt α} {totalAttempts : UInt32}

theorem result_eq_ok_iff {attempt : Attempt α} {parsed : JsonRpcResponse α} :
    Attempt.result attempt = .ok parsed ↔ attempt = .ok parsed := by
  rcases attempt with (e | e) | parsed
  · exact ⟨nofun, nofun⟩
  · exact ⟨nofun, nofun⟩
  · exact ⟨fun same => congrArg Except.ok (Except.ok.inj same),
      fun same => congrArg Except.ok (Except.ok.inj same)⟩

theorem exists_retry_of_not_ends {outcome : Attempt α} (goesOn : ¬Attempt.Ends outcome) :
    ∃ e, outcome = .error (.retry e) := by
  rcases outcome with (e | e) | parsed
  · exact ⟨e, rfl⟩
  · exact absurd trivial goesOn
  · exact absurd trivial goesOn

theorem logged_tryOnce (made : Nat) (log : List ((call : RetryCall Q) × call.Reply α)) :
    Prog.logged (serveOutcomes outcomes) (.tryOnce request) (made, log) =
      (.ok (outcomes made), made + 1, log ++ [⟨.tryOnce request, outcomes made⟩]) := rfl

theorem logged_sleep (attempt made : Nat) (log : List ((call : RetryCall Q) × call.Reply α)) :
    Prog.logged (serveOutcomes outcomes) (.sleep attempt) (made, log) =
      (.ok (), made, log ++ [⟨.sleep attempt, ()⟩]) := rfl

/-- The loop stops at an outcome that ends it, and when there are no attempts left. -/
theorem run_retryLoop_stop {first count : Nat} (total : first + (count + 1) = totalAttempts.toNat)
    (lastError : Option ForkError) (log : List ((call : RetryCall Q) × call.Reply α))
    (stops : Attempt.Ends (outcomes first) ∨ count = 0) :
    (retryLoop exhausted request totalAttempts (attemptNumbers first (count + 1)) lastError).run
        (Prog.logged (serveOutcomes outcomes)) (first, log) =
      (.ok (Attempt.result (outcomes first)), first + 1,
        log ++ schedule request outcomes first 0) := by
  rw [attemptNumbers_succ, retryLoop, Prog.run_ask_ok (logged_tryOnce first log), schedule]
  rcases outcome : outcomes first with (e | e) | parsed
  · rw [outcome] at stops
    have noneLeft : count = 0 := stops.resolve_left id
    simp only [mt (attempt_lt_iff total).mp (by omega : ¬0 < count), if_false]
    rfl
  · rfl
  · rfl

/-- Otherwise it sleeps, and goes on. -/
theorem run_retryLoop_retry {first count : Nat} {e : ForkError}
    (total : first + (count + 1 + 1) = totalAttempts.toNat)
    (lastError : Option ForkError) (log : List ((call : RetryCall Q) × call.Reply α))
    (retried : outcomes first = .error (.retry e)) :
    (retryLoop exhausted request totalAttempts (attemptNumbers first (count + 1 + 1)) lastError).run
        (Prog.logged (serveOutcomes outcomes)) (first, log) =
      (retryLoop exhausted request totalAttempts (attemptNumbers (first + 1) (count + 1))
          (some e)).run (Prog.logged (serveOutcomes outcomes))
        (first + 1, log ++ [⟨.tryOnce request, outcomes first⟩, ⟨.sleep first, ()⟩]) := by
  rw [attemptNumbers_succ, retryLoop, Prog.run_ask_ok (logged_tryOnce first log), retried]
  simp only [(attempt_lt_iff total).mpr (Nat.succ_pos count), if_true]
  rw [Prog.run_ask_ok (logged_sleep _ _ _), toNat_attempt total, List.append_assoc]
  rfl

/-- **The loop**, with `count + 1` attempts left, retries until an outcome ends it or
there are none left. -/
theorem run_retryLoop {first count : Nat} (total : first + (count + 1) = totalAttempts.toNat)
    (lastError : Option ForkError) (log : List ((call : RetryCall Q) × call.Reply α)) :
    ∃ retries ≤ count, (∀ j < retries, ¬Attempt.Ends (outcomes (first + j))) ∧
      (retries < count → Attempt.Ends (outcomes (first + retries))) ∧
      (retryLoop exhausted request totalAttempts (attemptNumbers first (count + 1)) lastError).run
          (Prog.logged (serveOutcomes outcomes)) (first, log) =
        (.ok (Attempt.result (outcomes (first + retries))), first + retries + 1,
          log ++ schedule request outcomes first retries) := by
  induction count generalizing first lastError log with
  | zero =>
      exact ⟨0, Nat.le_refl 0, nofun, nofun, run_retryLoop_stop total lastError log (.inr rfl)⟩
  | succ count ih =>
      by_cases ends : Attempt.Ends (outcomes first)
      · exact ⟨0, Nat.zero_le _, nofun, fun _ => ends,
          run_retryLoop_stop total lastError log (.inl ends)⟩
      · obtain ⟨e, retried⟩ := exists_retry_of_not_ends ends
        obtain ⟨retries, few, before, after, ran⟩ := @ih (first + 1) (by omega) (some e)
          (log ++ [⟨.tryOnce request, outcomes first⟩, ⟨.sleep first, ()⟩])
        have shift (j : Nat) : first + (j + 1) = first + 1 + j := by omega
        refine ⟨retries + 1, Nat.succ_le_succ few, ?_, ?_, ?_⟩
        · intro j below
          cases j with
          | zero => exact ends
          | succ j =>
              rw [shift]
              exact before j (Nat.lt_of_succ_lt_succ below)
        · intro below
          rw [shift]
          exact after (Nat.lt_of_succ_lt_succ below)
        · rw [run_retryLoop_retry total lastError log retried, ran, shift retries, schedule,
            List.append_assoc]
          rfl

/-- The error after the loop is never returned, as the last attempt returns its own. -/
theorem retryLoop_congr {first count : Nat} (other : ForkError)
    (total : first + (count + 1) = totalAttempts.toNat) (lastError : Option ForkError) :
    (retryLoop other request totalAttempts (attemptNumbers first (count + 1)) lastError :
        TimedPosts Q α (JsonRpcResponse α)) =
      retryLoop exhausted request totalAttempts (attemptNumbers first (count + 1)) lastError := by
  induction count generalizing first lastError with
  | zero =>
      rw [attemptNumbers_succ, retryLoop, retryLoop]
      simp only [mt (attempt_lt_iff total).mp (Nat.lt_irrefl 0), if_false]
  | succ count ih =>
      rw [attemptNumbers_succ, retryLoop, retryLoop]
      simp only [fun e => @ih (first + 1) (by omega) (some e)]

theorem schedule_ne_nil (first retries : Nat) : schedule request outcomes first retries ≠ [] := by
  cases retries <;> exact List.cons_ne_nil _ _

theorem honoursBudget_of_ne (fits : config.retries ≠ UInt32.ofNat (2 ^ 32 - 1)) :
    ∃ made, HonoursBudget overflowChecks config request outcomes made := by
  have total : 0 + (config.retries.toNat + 1) = (config.retries + 1).toNat := by
    rw [toNat_totalAttempts fits, Nat.zero_add]
  obtain ⟨retries, few, before, after, ran⟩ :=
    @run_retryLoop Q α (.transport "retry loop exhausted with no recorded error") request outcomes
      _ _ _ total none []
  simp only [Nat.zero_add] at before after ran
  refine ⟨retries + 1, ⟨fun i first => ?_, fun none => ?_, ?_, fun other => ?_⟩⟩
  · have reached : retries ≤ i := Nat.le_of_not_lt fun below => before i below first.1
    rcases Nat.lt_or_eq_of_le few with left | left
    · have same : i = retries := Nat.le_antisymm (first.2 (after left)) reached
      omega
    · omega
  · have left : ¬retries < config.retries.toNat := fun below => none retries (after below)
    omega
  · rw [rpcPostTimed, rpcPostOr_of_ne fits, ran]
    rfl
  · rw [rpcPostTimed, rpcPostOr_of_ne fits, rpcPostOr_of_ne fits]
    exact retryLoop_congr other total none

/-- With the greatest number of retries no attempt is made. -/
theorem run_rpcPostTimed_of_eq (most : config.retries = UInt32.ofNat (2 ^ 32 - 1)) :
    ∃ failure, (rpcPostTimed overflowChecks config request).run
        (Prog.logged (serveOutcomes outcomes)) (0, []) =
      (.ok (.error failure), 0, []) := by
  have wrapped : config.retries + 1 = 0 := by
    rw [most]
    rfl
  rw [rpcPostTimed, rpcPostOr, wrapped]
  split
  · exact ⟨_, rfl⟩
  · exact ⟨_, rfl⟩

/-- **The retry budget.**  For every sequence of outcomes a call honours its budget if
and only if `retries + 1` is a `u32`. -/
theorem honoursBudget_iff (overflowChecks : Bool) (config : RpcConfig) (request : Q)
    (outcomes : Nat → Attempt α) :
    (∃ made, HonoursBudget overflowChecks config request outcomes made) ↔
      config.retries ≠ UInt32.ofNat (2 ^ 32 - 1) := by
  refine ⟨?_, honoursBudget_of_ne⟩
  rintro ⟨made, honours⟩ most
  obtain ⟨failure, ran⟩ := @run_rpcPostTimed_of_eq Q α overflowChecks config request outcomes most
  rw [honours.called] at ran
  exact schedule_ne_nil 0 (made - 1) (Prod.mk.inj (Prod.mk.inj ran).2).2

/-- A call that was to succeed at once makes no attempt. -/
theorem mostRetries_no_attempt :
    (∀ made, ¬HonoursBudget true ⟨UInt32.ofNat (2 ^ 32 - 1), 200⟩ ()
        (fun _ => .ok ⟨some (), none⟩) made) ∧
      (rpcPostTimed true ⟨UInt32.ofNat (2 ^ 32 - 1), 200⟩ ()).run
          (Prog.logged (serveOutcomes fun _ => .ok ⟨some (), none⟩)) (0, []) =
        (.ok (.error (.panic "attempt to add with overflow")), 0, []) ∧
      (rpcPostTimed false ⟨UInt32.ofNat (2 ^ 32 - 1), 200⟩ ()).run
          (Prog.logged (serveOutcomes fun _ => .ok ⟨some (), none⟩)) (0, []) =
        (.ok (.error (.error (.transport "retry loop exhausted with no recorded error"))),
          0, []) := by
  refine ⟨fun made honours => ?_, rfl, rfl⟩
  have called := (Prod.mk.inj (Prod.mk.inj honours.called).2).2
  exact schedule_ne_nil 0 (made - 1) called.symm

end Call

end SorobanFork
