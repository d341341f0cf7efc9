import Mathlib.Data.Fintype.EquivFin

/-!
# Shifts combined by xor

`x ↦ x ^^^ f x` is a bijection of the words of a width, if `f` distributes over xor
and comes to zero when it is applied often enough (`xor_bijective`): two words
with the same image differ by one that `f` leaves as it is.  Shifts by at least
one place are such `f` (`xor_shiftLeft_bijective`, `xor_shiftRight_bijective`), so
a generator made of these steps permutes its states.
-/

namespace SorobanFork.Lib

variable {w : Nat}

instance finite_bitVec : Finite (BitVec w) :=
  Finite.of_injective BitVec.toFin fun _ _ same => BitVec.toFin_inj.mp same

theorem xor_bijective {f : BitVec w → BitVec w} (distrib : ∀ x y, f (x ^^^ y) = f x ^^^ f y)
    {n : Nat} (nilpotent : ∀ x, f^[n] x = 0#w) :
    Function.Bijective fun x => x ^^^ f x := by
  apply Finite.injective_iff_bijective.mp
  intro x y (same : x ^^^ f x = y ^^^ f y)
  have fixed : f (x ^^^ y) = x ^^^ y := by
    calc f (x ^^^ y) = x ^^^ (x ^^^ f x) ^^^ f y := by
          rw [distrib, ← BitVec.xor_assoc x x, BitVec.xor_self, BitVec.zero_xor]
      _ = x ^^^ y := by
          rw [same, ← BitVec.xor_assoc, BitVec.xor_assoc, BitVec.xor_self, BitVec.xor_zero]
  rw [← BitVec.xor_eq_zero_iff, ← nilpotent (x ^^^ y)]
  exact (Function.iterate_fixed fixed n).symm

theorem iterate_shiftLeft (k n : Nat) (x : BitVec w) :
    (fun y : BitVec w => y <<< k)^[n] x = x <<< (k * n) := by
  induction n generalizing x with
  | zero => exact (BitVec.shiftLeft_zero x).symm
  | succ n ih =>
      rw [Function.iterate_succ_apply, ih, ← BitVec.shiftLeft_add, Nat.mul_succ, Nat.add_comm]

theorem iterate_shiftRight (k n : Nat) (x : BitVec w) :
    (fun y : BitVec w => y >>> k)^[n] x = x >>> (k * n) := by
  induction n generalizing x with
  | zero => exact (BitVec.ushiftRight_zero x).symm
  | succ n ih =>
      rw [Function.iterate_succ_apply, ih, ← BitVec.shiftRight_add, Nat.mul_succ, Nat.add_comm]

variable {k : Nat}

theorem xor_shiftLeft_bijective (positive : 0 < k) :
    Function.Bijective fun x : BitVec w => x ^^^ x <<< k := by
  apply xor_bijective (f := fun x => x <<< k) (n := w)
  · intro x y
    exact BitVec.shiftLeft_xor_distrib x y k
  · intro x
    rw [iterate_shiftLeft]
    exact BitVec.shiftLeft_eq_zero (Nat.le_mul_of_pos_left w positive)

theorem xor_shiftRight_bijective (positive : 0 < k) :
    Function.Bijective fun x : BitVec w => x ^^^ x >>> k := by
  apply xor_bijective (f := fun x => x >>> k) (n := w)
  · intro x y
    exact BitVec.ushiftRight_xor_distrib x y k
  · intro x
    rw [iterate_shiftRight]
    exact BitVec.ushiftRight_eq_zero (Nat.le_mul_of_pos_left w positive)

end SorobanFork.Lib
