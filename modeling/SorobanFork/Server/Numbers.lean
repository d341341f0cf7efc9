import Mathlib.Algebra.Group.Int.Defs
import Mathlib.Algebra.Group.Nat.Defs
import Mathlib.Data.List.Basic
import Mathlib.Data.Vector.Defs
import SorobanFork.Xdr.Val

/-!
# Numbers and hex on the wire

Amounts arrive as decimal strings and are parsed as Rust's `str::parse` does.
An `i128` is a 128-bit word; the XDR carries it as a signed high and an unsigned
low half, and `joinI128_i128ToParts` says that splitting and joining lose nothing.
-/

namespace SorobanFork

/-! ## Decimal strings -/

/-- The value of an ASCII digit. -/
def digitValue (b : UInt8) : Option Nat :=
  if 48 ≤ b ∧ b ≤ 57 then some (b.toNat - 48) else none

/-- The digits of a number, most significant first; `step acc d` adds one digit. -/
def parseDigits (inRange : Int → Bool) (overflow : String) (step : Int → Nat → Int) :
    Bytes → Int → Except String Int
  | [], acc => .ok acc
  | b :: bs, acc =>
    match digitValue b with
    | none => .error "invalid digit found in string"
    | some d =>
      if inRange (step acc d) then parseDigits inRange overflow step bs (step acc d)
      else .error overflow

/-- `str::parse` for a signed integer type with the given range. -/
def parseInt (min max : Int) (s : String) : Except String Int :=
  let inRange (n : Int) : Bool := decide (min ≤ n ∧ n ≤ max)
  let positive := parseDigits inRange "number too large to fit in target type"
    fun acc d => acc * 10 + d
  let negative := parseDigits inRange "number too small to fit in target type"
    fun acc d => acc * 10 - d
  match utf8 s with
  | [] => .error "cannot parse integer from empty string"
  | [43] => .error "invalid digit found in string"
  | [45] => .error "invalid digit found in string"
  | 43 :: digits => positive digits 0
  | 45 :: digits => negative digits 0
  | digits => positive digits 0

def parseI64 (s : String) : Except String Int64 :=
  (parseInt (-2 ^ 63) (2 ^ 63 - 1) s).map Int64.ofInt

/-- `str::parse` for an unsigned integer type: a minus sign is no digit. -/
def parseUnsigned (max : Int) (s : String) : Except String Int :=
  let inRange (n : Int) : Bool := decide (0 ≤ n ∧ n ≤ max)
  let positive := parseDigits inRange "number too large to fit in target type"
    fun acc d => acc * 10 + d
  match utf8 s with
  | [] => .error "cannot parse integer from empty string"
  | [43] => .error "invalid digit found in string"
  | [45] => .error "invalid digit found in string"
  | 43 :: digits => positive digits 0
  | digits => positive digits 0

def parseU64 (s : String) : Except String UInt64 :=
  (parseUnsigned (2 ^ 64 - 1) s).map fun n => UInt64.ofNat n.toNat

/-! ## 128-bit integers -/

/-- `i128`. -/
abbrev I128 : Type := BitVec 128

def parseI128 (s : String) : Except String I128 :=
  (parseInt (-2 ^ 127) (2 ^ 127 - 1) s).map (BitVec.ofInt 128)

/-- `((hi as i128) << 64) | (lo as i128)`. -/
def joinI128 (parts : Int128Parts) : I128 :=
  (parts.hi.toBitVec.signExtend 128 <<< 64) ||| parts.lo.toBitVec.setWidth 128

/-- The halves of an `i128`: `(n >> 64) as i64` and the low 64 bits. -/
def i128ToParts (n : I128) : Int128Parts where
  hi := ⟨⟨(n.sshiftRight 64).setWidth 64⟩⟩
  lo := ⟨(n &&& 0xFFFFFFFFFFFFFFFF#128).setWidth 64⟩

def i128ToScval (n : I128) : ScVal := .i128 (i128ToParts n)

/-- `i128::checked_abs`. -/
def checkedAbs (n : I128) : Option I128 :=
  if n = BitVec.intMin 128 then none else some n.abs

theorem getLsbD_lowMask {i : Nat} (small : i < 128) :
    (0xFFFFFFFFFFFFFFFF#128).getLsbD i = decide (i < 64) := by
  have bits : ∀ i : Fin 128, (0xFFFFFFFFFFFFFFFF#128).getLsbD i = decide (i.val < 64) := by
    decide
  exact bits ⟨i, small⟩

/-- Splitting an `i128` into halves and joining them gives it back. -/
theorem joinI128_i128ToParts (n : I128) : joinI128 (i128ToParts n) = n := by
  apply BitVec.eq_of_getLsbD_eq
  intro i small
  simp only [joinI128, i128ToParts, Int64.toBitVec, BitVec.getLsbD_or, BitVec.getLsbD_shiftLeft,
    BitVec.getLsbD_setWidth, BitVec.getLsbD_signExtend, BitVec.getLsbD_sshiftRight,
    BitVec.getLsbD_and, getLsbD_lowMask small, small, decide_true, Bool.true_and]
  by_cases low : i < 64
  · simp [low]
  · have inHigh : i - 64 < 64 := by omega
    have inWord : i - 64 < 128 := by omega
    have below : ¬128 ≤ i - 64 := by omega
    have back : 64 + (i - 64) = i := by omega
    simp [low, inHigh, inWord, below, back, small]

/-! ## Hex -/

/-- The value of a hex digit, in either case. -/
def hexNibble (b : UInt8) : Option UInt8 :=
  if 48 ≤ b ∧ b ≤ 57 then some (b - 48)
  else if 97 ≤ b ∧ b ≤ 102 then some (b - 97 + 10)
  else if 65 ≤ b ∧ b ≤ 70 then some (b - 65 + 10)
  else none

/-- Pairs of hex digits. -/
def parseHexPairs : Bytes → Option Bytes
  | [] => some []
  | [_] => none
  | a :: b :: rest => do
    let hi ← hexNibble a
    let lo ← hexNibble b
    let bytes ← parseHexPairs rest
    return ((hi <<< 4 ||| lo) :: bytes)

theorem length_parseHexPairs {digits bytes : Bytes} (parsed : parseHexPairs digits = some bytes) :
    digits.length = 2 * bytes.length := by
  induction digits using parseHexPairs.induct generalizing bytes with
  | case1 =>
      rw [parseHexPairs] at parsed
      cases parsed
      rfl
  | case2 b => cases parsed
  | case3 a b rest ih =>
      simp only [parseHexPairs, Option.bind_eq_bind, Option.bind_eq_some_iff, Option.pure_def,
        Option.some.injEq] at parsed
      obtain ⟨hi, -, lo, -, tail, tailParsed, rfl⟩ := parsed
      rw [List.length_cons, List.length_cons, List.length_cons, ih tailParsed]
      omega

/-- `parse_hex32`: 64 hex digits as 32 bytes. -/
def parseHex32 (s : String) : Option Hash :=
  if long : (utf8 s).length = 64 then
    match parsed : parseHexPairs (utf8 s) with
    | some bytes => some ⟨bytes, by have := length_parseHexPairs parsed; omega⟩
    | none => none
  else none

end SorobanFork
