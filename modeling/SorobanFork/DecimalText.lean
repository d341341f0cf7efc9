import SorobanFork.HexText

/-!
# Numbers as decimal text

Amounts and close times travel as decimal strings.  `IsDecimal` says which texts are
numbers and which number they are: digits, with a sign in front if the type has one.
The parsers cut off at the range of their type in the middle of a text; since the
value only grows with each digit, that comes to the range of the whole
(`parseDigits_eq_ok_iff`).

* `parseI64_eq_ok_iff`, `parseI128_eq_ok_iff`, `parseU64_eq_ok_iff`: each parser
  accepts exactly the texts of the numbers of its type.
* `parseU64_toString`: what is printed is parsed back.
-/

namespace SorobanFork

/-! ## Digits -/

def IsDigit (b : UInt8) : Prop := 48 ≤ b ∧ b ≤ 57

/-- The number that digits spell after the number `acc`. -/
def valueFrom (acc : Nat) (digits : Bytes) : Nat :=
  digits.foldl (fun acc b => acc * 10 + (b.toNat - 48)) acc

theorem le_valueFrom (acc : Nat) (digits : Bytes) : acc ≤ valueFrom acc digits := by
  induction digits generalizing acc with
  | nil => exact Nat.le_refl acc
  | cons b digits ih =>
      have rest := ih (acc * 10 + (b.toNat - 48))
      rw [valueFrom, List.foldl_cons]
      rw [valueFrom] at rest
      omega

theorem digitValue_eq_some_iff {b : UInt8} {d : Nat} :
    digitValue b = some d ↔ IsDigit b ∧ d = b.toNat - 48 := by
  unfold digitValue IsDigit
  split
  case isTrue digit =>
    rw [Option.some.injEq, and_iff_right digit]
    exact eq_comm
  case isFalse other => exact iff_of_false nofun fun both => other both.1

section

variable {inRange : Int → Bool} {overflow : String} {step : Int → Nat → Int} {embed : Nat → Int}

/-- **Digits.**  Where each digit leads from a number to ten times the number and the
digit, and the range has all numbers below any of its own, the digits are parsed
exactly if their value is in the range. -/
theorem parseDigits_eq_ok_iff (steps : ∀ a d, step (embed a) d = embed (a * 10 + d))
    (below : ∀ {a b}, a ≤ b → inRange (embed b) = true → inRange (embed a) = true)
    {digits : Bytes} {acc : Nat} {n : Int} (start : inRange (embed acc) = true) :
    parseDigits inRange overflow step digits (embed acc) = .ok n ↔
      (∀ b ∈ digits, IsDigit b) ∧ n = embed (valueFrom acc digits) ∧ inRange n = true := by
  induction digits generalizing acc with
  | nil =>
      rw [parseDigits, Except.ok.injEq]
      constructor
      · rintro rfl
        exact ⟨nofun, rfl, start⟩
      · rintro ⟨-, same, -⟩
        exact same.symm
  | cons b digits ih =>
      rw [parseDigits, List.forall_mem_cons]
      rcases value : digitValue b with _ | d
      · refine iff_of_false nofun ?_
        rintro ⟨⟨digit, -⟩, -⟩
        rw [digitValue_eq_some_iff.mpr ⟨digit, rfl⟩] at value
        cases value
      obtain ⟨digit, rfl⟩ := digitValue_eq_some_iff.mp value
      simp only [steps]
      split
      case isTrue fits =>
        rw [ih fits, and_iff_right digit]
        rfl
      case isFalse tooLarge =>
        refine iff_of_false nofun ?_
        rintro ⟨-, rfl, fits⟩
        -- the number so far is below that of all digits
        exact tooLarge (below (le_valueFrom _ digits) fits)

end

/-! ## Texts -/

/-- The text is a decimal number; `signed` tells whether it may have a minus sign. -/
inductive IsDecimal (signed : Prop) (s : String) : Int → Prop
  | plain (digits : Bytes) : utf8 s = digits → digits ≠ [] → (∀ b ∈ digits, IsDigit b) →
    IsDecimal signed s (valueFrom 0 digits)
  | plus (digits : Bytes) : utf8 s = 43 :: digits → digits ≠ [] → (∀ b ∈ digits, IsDigit b) →
    IsDecimal signed s (valueFrom 0 digits)
  | minus (digits : Bytes) : signed → utf8 s = 45 :: digits → digits ≠ [] →
    (∀ b ∈ digits, IsDigit b) → IsDecimal signed s (-(valueFrom 0 digits))

section

variable {min max n : Int} {digits : Bytes}

theorem parsePositive_eq_ok_iff {low : Int} (least : low ≤ 0) (greatest : 0 ≤ max) :
    parseDigits (fun n => decide (low ≤ n ∧ n ≤ max)) "number too large to fit in target type"
        (fun acc d => acc * 10 + d) digits 0 = .ok n ↔
      (∀ b ∈ digits, IsDigit b) ∧ n = valueFrom 0 digits ∧ low ≤ n ∧ n ≤ max := by
  have parses := @parseDigits_eq_ok_iff (fun n => decide (low ≤ n ∧ n ≤ max))
    "number too large to fit in target type" (fun acc d => acc * 10 + d) (fun a => (a : Int))
    (fun a d => by push_cast; rfl)
    (fun le fits => by
      have bounds := of_decide_eq_true fits
      exact decide_eq_true ⟨by omega, by omega⟩) digits 0 n (decide_eq_true ⟨least, greatest⟩)
  rw [decide_eq_true_iff] at parses
  exact parses

theorem parseNegative_eq_ok_iff (least : min ≤ 0) (greatest : 0 ≤ max) :
    parseDigits (fun n => decide (min ≤ n ∧ n ≤ max)) "number too small to fit in target type"
        (fun acc d => acc * 10 - d) digits 0 = .ok n ↔
      (∀ b ∈ digits, IsDigit b) ∧ n = -(valueFrom 0 digits) ∧ min ≤ n ∧ n ≤ max := by
  have parses := @parseDigits_eq_ok_iff (fun n => decide (min ≤ n ∧ n ≤ max))
    "number too small to fit in target type" (fun acc d => acc * 10 - d) (fun a => -(a : Int))
    (fun a d => by push_cast; omega)
    (fun le fits => by
      have bounds := of_decide_eq_true fits
      exact decide_eq_true ⟨by omega, by omega⟩) digits 0 n (decide_eq_true ⟨least, greatest⟩)
  rw [decide_eq_true_iff] at parses
  exact parses

/-! ### By the first byte -/

theorem not_isDigit_plus : ¬IsDigit 43 := fun digit => absurd digit.1 (by decide)

theorem not_isDigit_minus : ¬IsDigit 45 := fun digit => absurd digit.1 (by decide)

variable {signed : Prop} {s : String}

theorem isDecimal_plus_iff (text : utf8 s = 43 :: digits) :
    IsDecimal signed s n ↔
      digits ≠ [] ∧ (∀ b ∈ digits, IsDigit b) ∧ n = valueFrom 0 digits := by
  constructor
  · intro decimal
    cases decimal with
    | plain digits' same _ digit =>
        obtain rfl := same.symm.trans text
        exact absurd (digit 43 (.head _)) not_isDigit_plus
    | plus digits' same more digit =>
        cases text.symm.trans same
        exact ⟨more, digit, rfl⟩
    | minus digits' _ same => cases text.symm.trans same
  · rintro ⟨more, digit, rfl⟩
    exact .plus digits text more digit

theorem isDecimal_minus_iff (text : utf8 s = 45 :: digits) :
    IsDecimal signed s n ↔
      signed ∧ digits ≠ [] ∧ (∀ b ∈ digits, IsDigit b) ∧ n = -(valueFrom 0 digits) := by
  constructor
  · intro decimal
    cases decimal with
    | plain digits' same _ digit =>
        obtain rfl := same.symm.trans text
        exact absurd (digit 45 (.head _)) not_isDigit_minus
    | plus digits' same => cases text.symm.trans same
    | minus digits' sign same more digit =>
        cases text.symm.trans same
        exact ⟨sign, more, digit, rfl⟩
  · rintro ⟨sign, more, digit, rfl⟩
    exact .minus digits sign text more digit

theorem isDecimal_plain_iff (noPlus : ∀ digits, utf8 s ≠ 43 :: digits)
    (noMinus : ∀ digits, utf8 s ≠ 45 :: digits) :
    IsDecimal signed s n ↔
      utf8 s ≠ [] ∧ (∀ b ∈ utf8 s, IsDigit b) ∧ n = valueFrom 0 (utf8 s) := by
  constructor
  · intro decimal
    cases decimal with
    | plain digits same more digit =>
        subst same
        exact ⟨more, digit, rfl⟩
    | plus digits same => exact absurd same (noPlus digits)
    | minus digits _ same => exact absurd same (noMinus digits)
  · rintro ⟨more, digit, rfl⟩
    exact .plain (utf8 s) rfl more digit

theorem not_isDecimal_of_nil (text : utf8 s = []) : ¬IsDecimal signed s n := by
  have noSign (b : UInt8) (digits : Bytes) : utf8 s ≠ b :: digits := by
    rw [text]
    exact (List.cons_ne_nil b digits).symm
  intro decimal
  exact ((isDecimal_plain_iff (noSign 43) (noSign 45)).mp decimal).1 text

/-! ## Parsers -/

theorem parseInt_eq_ok_iff (least : min ≤ 0) (greatest : 0 ≤ max) :
    parseInt min max s = .ok n ↔ IsDecimal True s n ∧ min ≤ n ∧ n ≤ max := by
  unfold parseInt
  dsimp only
  split
  case h_1 text => exact iff_of_false nofun fun both => not_isDecimal_of_nil text both.1
  case h_2 text =>
    rw [isDecimal_plus_iff text]
    exact iff_of_false nofun fun both => both.1.1 rfl
  case h_3 text =>
    rw [isDecimal_minus_iff text]
    exact iff_of_false nofun fun both => both.1.2.1 rfl
  case h_4 digits more text =>
    rw [parsePositive_eq_ok_iff least greatest, isDecimal_plus_iff text, and_iff_right more,
      and_assoc]
  case h_5 digits more text =>
    rw [parseNegative_eq_ok_iff least greatest, isDecimal_minus_iff text, and_iff_right trivial,
      and_iff_right more, and_assoc]
  case h_6 some _ _ noPlus noMinus =>
    rw [parsePositive_eq_ok_iff least greatest, isDecimal_plain_iff noPlus noMinus,
      and_iff_right some, and_assoc]

theorem parseUnsigned_eq_ok_iff (greatest : 0 ≤ max) :
    parseUnsigned max s = .ok n ↔ IsDecimal False s n ∧ 0 ≤ n ∧ n ≤ max := by
  unfold parseUnsigned
  dsimp only
  split
  case h_1 text => exact iff_of_false nofun fun both => not_isDecimal_of_nil text both.1
  case h_2 text =>
    rw [isDecimal_plus_iff text]
    exact iff_of_false nofun fun both => both.1.1 rfl
  case h_3 text =>
    rw [isDecimal_minus_iff text]
    exact iff_of_false nofun fun both => both.1.1
  case h_4 digits more text =>
    rw [parsePositive_eq_ok_iff (Int.le_refl 0) greatest, isDecimal_plus_iff text,
      and_iff_right more, and_assoc]
  case h_5 some _ _ noPlus =>
    rw [parsePositive_eq_ok_iff (Int.le_refl 0) greatest]
    by_cases minus : ∃ digits, utf8 s = 45 :: digits
    · obtain ⟨digits, text⟩ := minus
      rw [isDecimal_minus_iff text, text]
      refine iff_of_false (fun parsed => ?_) fun both => both.1.1
      exact not_isDigit_minus (parsed.1 45 (.head _))
    · rw [isDecimal_plain_iff noPlus (not_exists.mp minus), and_iff_right some, and_assoc]

end

theorem parseI64_eq_ok_iff (s : String) (a : Int64) :
    parseI64 s = .ok a ↔ IsDecimal True s a.toInt := by
  rw [parseI64, except_map_eq_ok]
  constructor
  · rintro ⟨n, parsed, rfl⟩
    obtain ⟨decimal, low, high⟩ := (parseInt_eq_ok_iff (by decide) (by decide)).mp parsed
    rwa [Int64.toInt_ofInt_of_le low (by omega)]
  · intro decimal
    have low := a.le_toInt
    have high := a.toInt_lt
    exact ⟨a.toInt, (parseInt_eq_ok_iff (by decide) (by decide)).mpr ⟨decimal, low, by omega⟩,
      Int64.ofInt_toInt a⟩

theorem parseI128_eq_ok_iff (s : String) (a : I128) :
    parseI128 s = .ok a ↔ IsDecimal True s a.toInt := by
  rw [parseI128, except_map_eq_ok]
  constructor
  · rintro ⟨n, parsed, rfl⟩
    obtain ⟨decimal, low, high⟩ := (parseInt_eq_ok_iff (by decide) (by decide)).mp parsed
    rwa [BitVec.toInt_ofInt, Int.bmod_eq_of_le (by omega) (by omega)]
  · intro decimal
    have low := a.le_toInt
    have high := a.toInt_lt
    exact ⟨a.toInt, (parseInt_eq_ok_iff (by decide) (by decide)).mpr ⟨decimal, low, by omega⟩,
      BitVec.ofInt_toInt⟩

theorem parseU64_eq_ok_iff (s : String) (a : UInt64) :
    parseU64 s = .ok a ↔ IsDecimal False s a.toNat := by
  rw [parseU64, except_map_eq_ok]
  constructor
  · rintro ⟨n, parsed, rfl⟩
    obtain ⟨decimal, low, high⟩ := (parseUnsigned_eq_ok_iff (by decide)).mp parsed
    have fits : n.toNat < 2 ^ 64 := by omega
    rwa [UInt64.toNat_ofNat_of_lt' fits, Int.toNat_of_nonneg low]
  · intro decimal
    have high := a.toNat_lt
    refine ⟨a.toNat, (parseUnsigned_eq_ok_iff (by decide)).mpr ⟨decimal, by omega, by omega⟩, ?_⟩
    rw [Int.toNat_natCast, UInt64.ofNat_toNat]

/-! ## What is printed -/

theorem isDigit_of_mem_toDigits {n : Nat} {c : Char} (mem : c ∈ Nat.toDigits 10 n) :
    48 ≤ c.toNat ∧ c.toNat ≤ 57 := by
  have digit := Nat.isDigit_of_mem_toDigits (by decide) (by decide) mem
  rw [Char.isDigit_iff_toNat] at digit
  exact digit

section

variable {cs : List Char}

theorem toNat_toUInt8_of_digit {c : Char} (high : c.toNat ≤ 57) : c.toUInt8.toNat = c.toNat := by
  rw [Char.toUInt8, UInt32.toNat_toUInt8]
  exact Nat.mod_eq_of_lt (Nat.lt_of_le_of_lt high (by decide))

theorem isDigit_of_mem_map (digits : ∀ c ∈ cs, 48 ≤ c.toNat ∧ c.toNat ≤ 57) {b : UInt8}
    (mem : b ∈ cs.map Char.toUInt8) : IsDigit b := by
  obtain ⟨c, memChars, rfl⟩ := List.mem_map.mp mem
  obtain ⟨low, high⟩ := digits c memChars
  have byte := toNat_toUInt8_of_digit high
  constructor
  · rw [UInt8.le_iff_toNat_le, byte]
    exact low
  · rw [UInt8.le_iff_toNat_le, byte]
    exact high

/-- Digits as bytes spell the number that they spell as characters. -/
theorem valueFrom_map (digits : ∀ c ∈ cs, 48 ≤ c.toNat ∧ c.toNat ≤ 57) (acc : Nat) :
    valueFrom acc (cs.map Char.toUInt8) = Nat.ofDigitChars 10 cs acc := by
  induction cs generalizing acc with
  | nil => rfl
  | cons c cs ih =>
      obtain ⟨low, high⟩ := digits c (.head _)
      have byte := toNat_toUInt8_of_digit high
      have rest := ih (fun c mem => digits c (.tail _ mem)) (acc * 10 + (c.toNat - 48))
      rw [Nat.ofDigitChars_cons, Nat.mul_comm 10 acc]
      rw [valueFrom] at rest ⊢
      rw [List.map_cons, List.foldl_cons, byte, rest]
      rfl

end

/-- A number is printed as its decimal text. -/
theorem isDecimal_toString (signed : Prop) (n : Nat) : IsDecimal signed (toString n) n := by
  have chars : (toString n).toList = Nat.toDigits 10 n := by
    rw [Nat.toString_eq_ofList_toDigits, String.toList_ofList]
  have digits (c : Char) (mem : c ∈ (toString n).toList) : 48 ≤ c.toNat ∧ c.toNat ≤ 57 :=
    isDigit_of_mem_toDigits (chars ▸ mem)
  have bytes := utf8_of_ascii fun c mem => Nat.lt_of_le_of_lt (digits c mem).2 (by decide)
  have value : valueFrom 0 (utf8 (toString n)) = n := by
    rw [bytes, valueFrom_map digits, chars, Nat.ofDigitChars_ten_toDigits]
  have plain := @IsDecimal.plain signed (toString n) (utf8 (toString n)) rfl ?_ ?_
  · rwa [value] at plain
  · rw [bytes, chars, ne_eq, List.map_eq_nil_iff]
    exact Nat.toDigits_ne_nil
  · rw [bytes]
    exact fun b mem => isDigit_of_mem_map digits mem

theorem parseU64_toString (a : UInt64) : parseU64 (toString a) = .ok a :=
  (parseU64_eq_ok_iff _ a).mpr (isDecimal_toString False a.toNat)

end SorobanFork
