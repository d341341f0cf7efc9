import Mathlib.Algebra.Order.Group.Nat
import SorobanFork.Lib.Saturating
import SorobanFork.Lib.XorShift

/-!
# Delays between attempts (`rpc.rs`)

Before it tries a request again the client sleeps for `backoffDelay`: the base delay
times two to the number of the attempt, and a jitter below the base delay on top.
All of it saturates, and `backoffDelay_in_window` says where the delay lies, for every
base, attempt and state of the generator.

The jitter comes from an xorshift generator in a thread-local word, which is a
parameter here.  `rng_never_degenerates` says that the word is never zero, and that a
step is a bijection of the words.
-/

namespace SorobanFork

open Lib

/-! ## Durations -/

/-- `Duration::MAX.as_nanos()`: `u64::MAX` seconds and 999999999 nanoseconds. -/
def maxNanos : Nat := (2 ^ 64 - 1) * 1000000000 + 999999999

/-- `std::time::Duration`, as its number of nanoseconds. -/
structure Duration : Type where
  asNanos : Nat
  le_max : asNanos ≤ maxNanos
deriving DecidableEq

namespace Duration

/-- The number of nanoseconds, or `Duration::MAX` if there are too many. -/
def saturate (nanos : Nat) : Duration := ⟨min maxNanos nanos, min_le_left _ _⟩

def zero : Duration := ⟨0, Nat.zero_le _⟩

def saturatingMul (d : Duration) (factor : UInt32) : Duration :=
  saturate (d.asNanos * factor.toNat)

def saturatingAdd (d d' : Duration) : Duration := saturate (d.asNanos + d'.asNanos)

/-- A `u64` of nanoseconds is less than `Duration::MAX`. -/
def fromNanos (nanos : UInt64) : Duration := saturate nanos.toNat

end Duration

/-! ## The generator -/

/-- The state after a call, which is also what the call returns: xorshift64. -/
def nextRngU64 (rng : UInt64) : UInt64 × UInt64 :=
  let x := rng
  let x := x ^^^ x <<< 13
  let x := x ^^^ x >>> 7
  let x := x ^^^ x <<< 17
  (x, x)

/-- The first state, from the time since the epoch; `none` if the clock is before it. -/
def seedRng (sinceEpoch : Option Duration) : UInt64 :=
  (sinceEpoch.map fun d => UInt64.ofNat d.asNanos * 0x9E3779B97F4A7C15).getD 0xDEADBEEFCAFEBABE
    ||| 1

/-- The state after some calls. -/
def rngAfter (calls : Nat) (rng : UInt64) : UInt64 := (fun rng => (nextRngU64 rng).2)^[calls] rng

/-! ## The delay -/

/-- `u32::saturating_pow`. -/
def saturatingPow32 (base exp : UInt32) : UInt32 :=
  UInt32.ofNat (min (2 ^ 32 - 1) (base.toNat ^ exp.toNat))

/-- `a % b`. -/
def remU64 (a b : UInt64) : Except String UInt64 :=
  if b = 0 then .error "attempt to calculate the remainder with a divisor of zero"
  else .ok (a % b)

/-- A duration below `max`, and the new state of the generator. -/
def jitterUnder (max : Duration) (rng : UInt64) : Except String Duration × UInt64 :=
  -- `as u64` drops the bits past 64
  let maxNanos := UInt64.ofNat max.asNanos
  if maxNanos = 0 then (.ok .zero, rng)
  else
    let (drawn, rng) := nextRngU64 rng
    ((remU64 drawn maxNanos).map Duration.fromNanos, rng)

def backoffDelay (base : Duration) (attempt : UInt32) (rng : UInt64) :
    Except String Duration × UInt64 :=
  let factor := saturatingPow32 2 attempt
  let exponential := base.saturatingMul factor
  let (jitter, rng) := jitterUnder base rng
  (jitter.map exponential.saturatingAdd, rng)

/-! ## What the generator does -/

/-- Three steps, each a bijection. -/
theorem nextRngU64_bijective : Function.Bijective fun rng => (nextRngU64 rng).2 := by
  have word : Function.Bijective UInt64.toBitVec :=
    ⟨fun _ _ same => UInt64.toBitVec_inj.mp same, fun x => ⟨⟨x⟩, rfl⟩⟩
  have steps : Function.Bijective fun x : BitVec 64 =>
      let x := x ^^^ x <<< 13
      let x := x ^^^ x >>> 7
      x ^^^ x <<< 17 :=
    ((xor_shiftLeft_bijective (by decide : 0 < 17)).comp
      (xor_shiftRight_bijective (by decide : 0 < 7))).comp
        (xor_shiftLeft_bijective (by decide : 0 < 13))
  have commutes : (UInt64.toBitVec ∘ fun rng => (nextRngU64 rng).2) =
      (fun x : BitVec 64 =>
        let x := x ^^^ x <<< 13
        let x := x ^^^ x >>> 7
        x ^^^ x <<< 17) ∘ UInt64.toBitVec := rfl
  exact (word.of_comp_iff' _).mp (commutes ▸ steps.comp word)

theorem nextRngU64_zero : (nextRngU64 0).2 = 0 := rfl

/-- The seed has its last bit set. -/
theorem seedRng_ne_zero (sinceEpoch : Option Duration) : seedRng sinceEpoch ≠ 0 := by
  intro zero
  cases (UInt64.or_eq_zero_iff.mp zero).2

/-- **The generator never degenerates.**  Whatever the clock says when it is seeded,
its state is not zero after any number of calls; a call is a bijection of the states,
so different states stay different. -/
theorem rng_never_degenerates :
    (∀ (sinceEpoch : Option Duration) (calls : Nat), rngAfter calls (seedRng sinceEpoch) ≠ 0) ∧
      Function.Bijective (fun rng => (nextRngU64 rng).2) ∧
      ∀ calls, Function.Injective (rngAfter calls) := by
  refine ⟨fun sinceEpoch calls => ?_, nextRngU64_bijective,
    fun calls => nextRngU64_bijective.injective.iterate calls⟩
  induction calls with
  | zero => exact seedRng_ne_zero sinceEpoch
  | succ calls ih =>
      rw [rngAfter, Function.iterate_succ_apply']
      intro zero
      exact ih (nextRngU64_bijective.injective (zero.trans nextRngU64_zero.symm))

/-! ## Where the delay lies -/

/-- What a delay is at least, before it saturates. -/
def leastDelay (base : Duration) (attempt : UInt32) : Nat :=
  base.asNanos * min (2 ^ attempt.toNat) (2 ^ 32 - 1)

theorem leastDelay_mono (base : Duration) {attempt later : UInt32} (le : attempt ≤ later) :
    leastDelay base attempt ≤ leastDelay base later := by
  apply Nat.mul_le_mul_left
  exact min_le_min_right _ (Nat.pow_le_pow_right (by decide) (UInt32.le_iff_toNat_le.mp le))

theorem toNat_saturatingPow32 (base exp : UInt32) :
    (saturatingPow32 base exp).toNat = min (2 ^ 32 - 1) (base.toNat ^ exp.toNat) := by
  apply UInt32.toNat_ofNat_of_lt'
  exact Nat.lt_of_le_of_lt (min_le_left _ _) (by decide)

/-- The jitter is below the low 64 bits of the base delay, or zero if these are. -/
theorem jitterUnder_lt (max : Duration) (rng : UInt64) :
    ∃ jitter, (jitterUnder max rng).1 = .ok jitter ∧
      (jitter.asNanos < max.asNanos ∨ jitter.asNanos = 0) := by
  by_cases zero : UInt64.ofNat max.asNanos = 0
  · exact ⟨.zero, by rw [jitterUnder, if_pos zero], .inr rfl⟩
  · have drawn : remU64 (nextRngU64 rng).1 (UInt64.ofNat max.asNanos) =
        .ok ((nextRngU64 rng).1 % UInt64.ofNat max.asNanos) := if_neg zero
    refine ⟨.fromNanos ((nextRngU64 rng).1 % UInt64.ofNat max.asNanos), ?_, .inl ?_⟩
    · rw [jitterUnder, if_neg zero]
      exact congrArg (Except.map Duration.fromNanos) drawn
    · have positive : 0 < (UInt64.ofNat max.asNanos).toNat :=
        Nat.pos_of_ne_zero fun none => zero (UInt64.toNat_inj.mp none)
      calc (Duration.fromNanos ((nextRngU64 rng).1 % UInt64.ofNat max.asNanos)).asNanos
          ≤ ((nextRngU64 rng).1 % UInt64.ofNat max.asNanos).toNat := min_le_right _ _
        _ = (nextRngU64 rng).1.toNat % (UInt64.ofNat max.asNanos).toNat := UInt64.toNat_mod _ _
        _ < (UInt64.ofNat max.asNanos).toNat := Nat.mod_lt _ positive
        _ = max.asNanos % 2 ^ 64 := UInt64.toNat_ofNat'
        _ ≤ max.asNanos := Nat.mod_le _ _

/-- **The delay stays in its window.**  For every base, attempt and state of the
generator the delay is computed without a panic; it is zero if the base is, and else
at least `leastDelay` and less than a base above it, cut off at `Duration::MAX`; and
this lower bound grows with the attempt. -/
theorem backoffDelay_in_window (base : Duration) (attempt : UInt32) (rng : UInt64) :
    (∃ delay, (backoffDelay base attempt rng).1 = .ok delay ∧
      (base.asNanos = 0 → delay.asNanos = 0) ∧
      (base.asNanos ≠ 0 → ∃ nanos, leastDelay base attempt ≤ nanos ∧
        nanos < leastDelay base attempt + base.asNanos ∧ delay.asNanos = min maxNanos nanos)) ∧
      ∀ later, attempt ≤ later →
        min maxNanos (leastDelay base attempt) ≤ min maxNanos (leastDelay base later) := by
  obtain ⟨jitter, drawn, small⟩ := jitterUnder_lt base rng
  have factor : base.asNanos * (saturatingPow32 2 attempt).toNat = leastDelay base attempt := by
    rw [toNat_saturatingPow32, min_comm]
    rfl
  have delayed : ((base.saturatingMul (saturatingPow32 2 attempt)).saturatingAdd jitter).asNanos =
      min maxNanos (leastDelay base attempt + jitter.asNanos) := by
    have cut : (base.saturatingMul (saturatingPow32 2 attempt)).asNanos =
        satAdd maxNanos 0 (leastDelay base attempt) := by
      rw [satAdd, Nat.zero_add, ← factor]
      rfl
    have added := satAdd_satAdd maxNanos 0 (leastDelay base attempt) jitter.asNanos
    rw [← cut, satAdd, satAdd, Nat.zero_add] at added
    exact added
  refine ⟨⟨(base.saturatingMul (saturatingPow32 2 attempt)).saturatingAdd jitter, ?_, ?_, ?_⟩,
    fun later le => min_le_min_left _ (leastDelay_mono base le)⟩
  · exact congrArg (Except.map _) drawn
  · intro zero
    have none : jitter.asNanos = 0 := by omega
    rw [delayed, none, leastDelay, zero, Nat.zero_mul, min_eq_right (Nat.zero_le _)]
  · intro positive
    exact ⟨_, Nat.le_add_right _ _, by omega, delayed⟩

end SorobanFork
