import SorobanFork.Render
import SorobanFork.Server.Cheatcodes

/-!
# The halves of 128-bit integers

An `i128` travels as a signed high and an unsigned low half.  It is split in one
place, and joined in two: by the handler that reads a token balance and by the
renderer of values.  Both joins put the halves side by side
(`joinI128_eq_append`), so the value is `hi * 2 ^ 64 + lo` (`toInt_joinI128`), and
everything else follows from that: splitting undoes joining and joining undoes
splitting, and values are ordered as their halves are (`halves_join_and_split`).
-/

namespace SorobanFork

/-- A word shifted past another one puts its low half in front of it. -/
theorem shiftLeft_or_eq_append (high : BitVec 128) (low : BitVec 64) :
    high <<< 64 ||| low.setWidth 128 = high.setWidth 64 ++ low := by
  apply BitVec.eq_of_getLsbD_eq
  intro i small
  rw [BitVec.getLsbD_or, BitVec.getLsbD_shiftLeft, BitVec.getLsbD_setWidth,
    BitVec.getLsbD_append, BitVec.getLsbD_setWidth]
  by_cases inLow : i < 64
  · simp [inLow, small]
  · have above : low.getLsbD i = false := BitVec.getLsbD_of_ge _ _ (by omega)
    have inHigh : i - 64 < 64 := by omega
    simp [inLow, inHigh, small, above]

/-- Extending a word with its sign keeps its bits. -/
theorem setWidth_signExtend (high : BitVec 64) : (high.signExtend 128).setWidth 64 = high := by
  apply BitVec.eq_of_getLsbD_eq
  intro i small
  rw [BitVec.getLsbD_setWidth, BitVec.getLsbD_signExtend]
  simp [small, Nat.lt_trans small (by decide : 64 < 128)]

theorem joinI128_eq_append (parts : Int128Parts) :
    joinI128 parts = parts.hi.toBitVec ++ parts.lo.toBitVec := by
  rw [joinI128, shiftLeft_or_eq_append, setWidth_signExtend]

theorem u128FromPieces_eq_append (hi lo : UInt64) :
    u128FromPieces hi lo = hi.toBitVec ++ lo.toBitVec := by
  rw [u128FromPieces, shiftLeft_or_eq_append, BitVec.setWidth_setWidth_of_le _ (by decide),
    BitVec.setWidth_eq]

/-- The number that two halves stand for. -/
def Int128Parts.toInt (parts : Int128Parts) : Int := parts.hi.toInt * 2 ^ 64 + parts.lo.toNat

theorem toInt_joinI128 (parts : Int128Parts) : (joinI128 parts).toInt = parts.toInt := by
  rw [joinI128_eq_append, BitVec.toInt_append, if_neg (by decide), Int128Parts.toInt]
  exact congrArg (· + _) (Int.mul_comm _ _)

theorem toInt_i128ToParts (n : I128) : (i128ToParts n).toInt = n.toInt := by
  rw [← toInt_joinI128, joinI128_i128ToParts]

/-- The high halves decide, and the low halves if the high ones are alike. -/
theorem Int128Parts.toInt_lt_iff (parts parts' : Int128Parts) :
    parts.toInt < parts'.toInt ↔
      parts.hi.toInt < parts'.hi.toInt ∨ parts.hi = parts'.hi ∧ parts.lo < parts'.lo := by
  have bound := parts.lo.toNat_lt
  have bound' := parts'.lo.toNat_lt
  rw [toInt, toInt, UInt64.lt_iff_toNat_lt, ← Int64.toInt_inj]
  omega

theorem Int128Parts.toInt_inj {parts parts' : Int128Parts} (same : parts.toInt = parts'.toInt) :
    parts = parts' := by
  obtain ⟨hi, lo⟩ := parts
  obtain ⟨hi', lo'⟩ := parts'
  have bound := lo.toNat_lt
  have bound' := lo'.toNat_lt
  simp only [toInt] at same
  have high : hi = hi' := Int64.toInt_inj.mp (by omega)
  have low : lo = lo' := UInt64.toNat_inj.mp (by omega)
  rw [high, low]

/-- Splitting undoes joining, as both keep the number. -/
theorem i128ToParts_joinI128 (parts : Int128Parts) : i128ToParts (joinI128 parts) = parts :=
  Int128Parts.toInt_inj ((toInt_i128ToParts _).trans (toInt_joinI128 parts))

theorem toNat_u128FromPieces (hi lo : UInt64) :
    (u128FromPieces hi lo).toNat = hi.toNat * 2 ^ 64 + lo.toNat := by
  rw [u128FromPieces_eq_append, BitVec.toNat_append,
    ← Nat.shiftLeft_add_eq_or_of_lt lo.toBitVec.isLt,
    Nat.shiftLeft_eq]
  rfl

/-- `join` is the inverse of splitting, and the halves are the digits of the number
to the base of `2 ^ 64`. -/
structure JoinsExactly (join : Int64 → UInt64 → I128) : Prop where
  split_join : ∀ n, ∃ hi lo, i128ToScval n = .i128 ⟨hi, lo⟩ ∧ join hi lo = n
  join_split : ∀ hi lo, i128ToScval (join hi lo) = .i128 ⟨hi, lo⟩
  value : ∀ hi lo, (join hi lo).toInt = hi.toInt * 2 ^ 64 + lo.toNat
  order : ∀ hi lo hi' lo', (join hi lo).toInt < (join hi' lo').toInt ↔
    hi.toInt < hi'.toInt ∨ hi = hi' ∧ lo < lo'

theorem joinsExactly_joinI128 : JoinsExactly fun hi lo => joinI128 ⟨hi, lo⟩ where
  split_join n := ⟨_, _, rfl, joinI128_i128ToParts n⟩
  join_split hi lo := congrArg ScVal.i128 (i128ToParts_joinI128 ⟨hi, lo⟩)
  value hi lo := toInt_joinI128 ⟨hi, lo⟩
  order hi lo hi' lo' := by
    rw [toInt_joinI128, toInt_joinI128, Int128Parts.toInt_lt_iff]

/-- **Halves join and split exactly**, with the join of the balance handler and with
that of the renderer; the unsigned join is exact as well. -/
theorem halves_join_and_split :
    (∃ join, JoinsExactly join ∧ ∀ (X : Xdr) (wire : Wire X) (hi : Int64) (lo : UInt64),
        tokenBalance wire (.ok (.i128 ⟨hi, lo⟩)) = .ok (join hi lo)) ∧
      JoinsExactly i128FromPieces ∧
      ∀ hi lo, (u128FromPieces hi lo).toNat = hi.toNat * 2 ^ 64 + lo.toNat :=
  ⟨⟨_, joinsExactly_joinI128, fun _ _ _ _ => rfl⟩, joinsExactly_joinI128, toNat_u128FromPieces⟩

end SorobanFork
