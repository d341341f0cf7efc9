import Mathlib.Algebra.BigOperators.Group.List.Basic
import Mathlib.Algebra.Order.Monoid.Canonical.Defs

/-!
# Addition that saturates

`satAdd M a b` is `a + b`, cut off at `M`.  Cutting off a sum along the way is the
same as cutting it off once at the end (`satAdd_satAdd`), so a list of additions
that saturate comes to its sum, cut off (`foldl_satAdd`), in any order
(`foldl_satAdd_perm`).
-/

namespace SorobanFork.Lib

universe u

variable {α : Type u} [AddCommMonoid α] [LinearOrder α] {M a b c : α}

/-- Add, and stop at `M`. -/
def satAdd (M a b : α) : α := min M (a + b)

theorem satAdd_zero (bounded : a ≤ M) : satAdd M a 0 = a := by
  rw [satAdd, add_zero, min_eq_right bounded]

theorem satAdd_le (M a b : α) : satAdd M a b ≤ M := min_le_left M (a + b)

/-- Adding more never comes to less. -/
theorem satAdd_mono [IsOrderedAddMonoid α] (M a : α) (more : b ≤ c) :
    satAdd M a b ≤ satAdd M a c :=
  min_le_min_left M (add_le_add_right more a)

variable [CanonicallyOrderedAdd α]

/-- Adding never takes anything away. -/
theorem le_satAdd (bounded : a ≤ M) (b : α) : a ≤ satAdd M a b := le_min bounded le_self_add

theorem satAdd_satAdd (M a b c : α) : satAdd M (satAdd M a b) c = satAdd M a (b + c) := by
  unfold satAdd
  rcases le_total (a + b) M with fits | full
  · rw [min_eq_right fits, add_assoc]
  · have full' : M ≤ a + (b + c) := by
      rw [← add_assoc]
      exact full.trans le_self_add
    rw [min_eq_left full, min_eq_left le_self_add, min_eq_left full']

/-- **A saturating sum** saturates once. -/
theorem foldl_satAdd (bounded : a ≤ M) (l : List α) :
    l.foldl (satAdd M) a = satAdd M a l.sum := by
  induction l generalizing a with
  | nil => rw [List.foldl_nil, List.sum_nil, satAdd_zero bounded]
  | cons b l ih =>
      rw [List.foldl_cons, ih (satAdd_le M a b), satAdd_satAdd, List.sum_cons]

theorem foldl_satAdd_perm (bounded : a ≤ M) {l l' : List α} (perm : l.Perm l') :
    l.foldl (satAdd M) a = l'.foldl (satAdd M) a := by
  rw [foldl_satAdd bounded, foldl_satAdd bounded, perm.sum_eq]

end SorobanFork.Lib
