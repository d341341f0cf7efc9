import SorobanFork.Xdr.Val

/-!
# Values in a rendering (`trace.rs`)

Call trees and authorization trees show values in a compact form, `renderScval`.
The texts of strings, symbols and names appear in it as they are, all else is
digits and punctuation, so a rendering stays on its line if and only if these
texts have no line break (`noBreak_renderScval`).
-/

namespace SorobanFork

/-- A text without a line break. -/
def NoBreak (text : String) : Prop := '\n' ∉ text.toList

instance (text : String) : Decidable (NoBreak text) := inferInstanceAs (Decidable (¬_))

/-- The values that a rendering leaves to `{:?}`. -/
def ScVal.Exotic : ScVal → Prop
  | .error _ | .timepoint _ | .duration _ | .u256 _ | .i256 _ | .contractInstance _ _
  | .ledgerKeyContractInstance | .ledgerKeyNonce _ => True
  | _ => False

/-- The addresses that a rendering leaves to `{:?}`. -/
def ScAddress.Exotic : ScAddress → Prop
  | .account _ | .contract _ => False
  | _ => True

/-- The texts that other crates give: strkeys, which are base32, and what `{:?}` prints
for values and addresses.  They have no line breaks. -/
structure DisplayTexts : Type where
  accountStrkey : Uint256 → String
  contractStrkey : Hash → String
  debugScval : ScVal → String
  debugScAddress : ScAddress → String
  noBreak_accountStrkey : ∀ key, NoBreak (accountStrkey key)
  noBreak_contractStrkey : ∀ id, NoBreak (contractStrkey id)
  noBreak_debugScval : ∀ v : ScVal, v.Exotic → NoBreak (debugScval v)
  noBreak_debugScAddress : ∀ a : ScAddress, a.Exotic → NoBreak (debugScAddress a)

def u128FromPieces (hi lo : UInt64) : BitVec 128 :=
  (hi.toBitVec.setWidth 128 <<< 64) ||| lo.toBitVec.setWidth 128

def i128FromPieces (hi : Int64) (lo : UInt64) : BitVec 128 :=
  (hi.toBitVec.signExtend 128 <<< 64) ||| lo.toBitVec.setWidth 128

/-- The first and the last four characters of a long strkey; it is ASCII, so its bytes
are its characters. -/
def abbreviateStrkey (s : String) : String :=
  if s.length > 12 then
    String.ofList (s.toList.take 4) ++ "…" ++ String.ofList (s.toList.drop (s.length - 4))
  else s

/-- `{:02x}`. -/
def hexByte (b : UInt8) : String :=
  String.ofList [Nat.digitChar (b.toNat / 16), Nat.digitChar (b.toNat % 16)]

def renderBytes (bytes : Bytes) : String :=
  let preview := 8
  if bytes.length ≤ preview * 2 then "0x" ++ String.join (bytes.map hexByte)
  else
    "0x" ++ String.join ((bytes.take preview).map hexByte) ++ "…(" ++ toString bytes.length ++
      " bytes)"

/-- Around the rendered entries of a map. -/
def renderMap (entries : List String) : String :=
  "\x7b" ++ ", ".intercalate entries ++ "\x7d"

section Render

variable (texts : DisplayTexts)

def renderAddress : ScAddress → String
  | .account a => abbreviateStrkey (texts.accountStrkey a.ed25519)
  | .contract h => abbreviateStrkey (texts.contractStrkey h)
  | other => texts.debugScAddress other

mutual

def renderScval : ScVal → String
  | .void => "()"
  | .bool b => toString b
  | .u32 n => toString n.toNat
  | .i32 n => toString n.toInt
  | .u64 n => toString n.toNat
  | .i64 n => toString n.toInt
  | .u128 p => toString (u128FromPieces p.hi p.lo).toNat
  | .i128 p => toString (i128FromPieces p.hi p.lo).toInt
  | .symbol s => (fromUtf8 s).getD "Symbol(<non-utf8>)"
  | .string s =>
    match fromUtf8 s with
    | some text => "\"" ++ text ++ "\""
    | none => "String(<non-utf8>)"
  | .bytes b => renderBytes b
  | .address addr => renderAddress texts addr
  | .vec none => "[]"
  | .vec (some vec) => "[" ++ ", ".intercalate (renderScvals vec) ++ "]"
  | .map none => "\x7b\x7d"
  | .map (some m) => renderMap (renderEntries m)
  | other => texts.debugScval other
termination_by structural v => v

/-- The values of a vector. -/
def renderScvals : List ScVal → List String
  | [] => []
  | v :: vs => renderScval v :: renderScvals vs
termination_by structural vs => vs

/-- The entries of a map. -/
def renderEntries : List (ScVal × ScVal) → List String
  | [] => []
  | e :: es => renderEntry e :: renderEntries es
termination_by structural es => es

def renderEntry : ScVal × ScVal → String
  | (key, val) => renderScval key ++ ": " ++ renderScval val
termination_by structural e => e

end

end Render

/-! ## Line breaks -/

mutual

/-- The texts that are shown of a value have no line break. -/
def ScVal.NoBreak : ScVal → Prop
  | .symbol s => ∀ text, fromUtf8 s = some text → SorobanFork.NoBreak text
  | .string s => ∀ text, fromUtf8 s = some text → SorobanFork.NoBreak text
  | .vec (some vec) => NoBreaks vec
  | .map (some m) => EntriesNoBreak m
  | _ => True
termination_by structural v => v

/-- All values of a vector. -/
def NoBreaks : List ScVal → Prop
  | [] => True
  | v :: vs => v.NoBreak ∧ NoBreaks vs
termination_by structural vs => vs

/-- All entries of a map. -/
def EntriesNoBreak : List (ScVal × ScVal) → Prop
  | [] => True
  | e :: es => EntryNoBreak e ∧ EntriesNoBreak es
termination_by structural es => es

def EntryNoBreak : ScVal × ScVal → Prop
  | (key, val) => key.NoBreak ∧ val.NoBreak
termination_by structural e => e

end

@[simp] theorem noBreak_append {s t : String} : NoBreak (s ++ t) ↔ NoBreak s ∧ NoBreak t := by
  rw [NoBreak, String.toList_append, List.mem_append, not_or]
  rfl

/-- Separators do not break a line. -/
theorem noBreak_intercalate {ts : List String} :
    NoBreak (", ".intercalate ts) ↔ ∀ t ∈ ts, NoBreak t := by
  induction ts with
  | nil => exact iff_of_true (by decide) nofun
  | cons t ts ih =>
      rw [List.forall_mem_cons]
      cases ts with
      | nil => rw [String.intercalate_singleton]; exact (and_iff_left nofun).symm
      | cons t' ts =>
          rw [String.intercalate_cons_of_ne_nil (List.cons_ne_nil _ _), noBreak_append,
            noBreak_append, ih]
          exact and_congr_left' (and_iff_left (by decide))

theorem noBreak_repr (n : Nat) : NoBreak n.repr := by
  intro inside
  rw [Nat.toList_repr] at inside
  have digit : Char.isDigit '\n' = true :=
    Nat.isDigit_of_mem_toDigits (by decide) (by decide) inside
  cases digit

theorem noBreak_nat (n : Nat) : NoBreak (toString n) := noBreak_repr n

theorem noBreak_int (n : Int) : NoBreak (toString n) := by
  rw [Int.toString_eq_repr, Int.repr_eq_if]
  split
  · exact noBreak_repr _
  · exact noBreak_append.mpr ⟨by decide, noBreak_repr _⟩

theorem noBreak_bool (b : Bool) : NoBreak (toString b) := by
  cases b <;> decide

theorem noBreak_hexByte (b : UInt8) : NoBreak (hexByte b) := by
  have digit (n : Nat) : Nat.digitChar n ≠ '\n' := Nat.digitChar_ne '\n' rfl
  intro inside
  rw [hexByte, String.toList_ofList] at inside
  rcases List.mem_cons.mp inside with same | inside
  · exact digit _ same.symm
  · exact digit _ (List.mem_singleton.mp inside).symm

theorem noBreak_renderBytes (bytes : Bytes) : NoBreak (renderBytes bytes) := by
  have hex (bytes : Bytes) : NoBreak (String.join (bytes.map hexByte)) := by
    intro inside
    rw [String.toList_join, List.flatMap_map] at inside
    obtain ⟨b, -, inside⟩ := List.mem_flatMap.mp inside
    exact noBreak_hexByte b inside
  unfold renderBytes
  dsimp only
  split
  · exact noBreak_append.mpr ⟨by decide, hex bytes⟩
  · simp only [noBreak_append]
    exact ⟨⟨⟨⟨by decide, hex _⟩, by decide⟩, noBreak_nat _⟩, by decide⟩

theorem noBreak_abbreviateStrkey {s : String} (plain : NoBreak s) :
    NoBreak (abbreviateStrkey s) := by
  have part {l : List Char} (sub : l ⊆ s.toList) : NoBreak (String.ofList l) := by
    intro inside
    rw [String.toList_ofList] at inside
    exact plain (sub inside)
  unfold abbreviateStrkey
  split
  · exact noBreak_append.mpr ⟨noBreak_append.mpr ⟨part (List.take_subset 4 _), by decide⟩,
      part (List.drop_subset _ _)⟩
  · exact plain

section

variable (texts : DisplayTexts)

theorem noBreak_renderAddress (a : ScAddress) : NoBreak (renderAddress texts a) := by
  cases a with
  | account id => exact noBreak_abbreviateStrkey (texts.noBreak_accountStrkey id.ed25519)
  | contract id => exact noBreak_abbreviateStrkey (texts.noBreak_contractStrkey id)
  | _ => exact texts.noBreak_debugScAddress _ trivial

/-- A text, or a note that there is none. -/
theorem noBreak_fromUtf8_getD {bytes : Bytes} {note : String} (plain : NoBreak note) :
    NoBreak ((fromUtf8 bytes).getD note) ↔ ∀ text, fromUtf8 bytes = some text → NoBreak text := by
  cases fromUtf8 bytes with
  | none => exact iff_of_true plain nofun
  | some text => exact ⟨fun shown _ same => Option.some.inj same ▸ shown, fun all => all text rfl⟩

theorem renderScval_symbol (s : Bytes) :
    renderScval texts (.symbol s) = (fromUtf8 s).getD "Symbol(<non-utf8>)" := rfl

theorem renderScval_string (s : Bytes) :
    renderScval texts (.string s) =
      match fromUtf8 s with
      | some text => "\"" ++ text ++ "\""
      | none => "String(<non-utf8>)" := rfl

theorem renderScval_vec (vec : List ScVal) :
    renderScval texts (.vec (some vec)) =
      "[" ++ ", ".intercalate (renderScvals texts vec) ++ "]" := rfl

theorem renderScval_map (m : List (ScVal × ScVal)) :
    renderScval texts (.map (some m)) =
      "\x7b" ++ ", ".intercalate (renderEntries texts m) ++ "\x7d" := rfl

theorem ScVal.noBreak_vec (vec : List ScVal) : (ScVal.vec (some vec)).NoBreak ↔ NoBreaks vec :=
  Iff.rfl

theorem ScVal.noBreak_map (m : List (ScVal × ScVal)) :
    (ScVal.map (some m)).NoBreak ↔ EntriesNoBreak m :=
  Iff.rfl

mutual

/-- **A rendered value** has no line break if and only if the texts in it have none. -/
theorem noBreak_renderScval : ∀ v : ScVal, NoBreak (renderScval texts v) ↔ v.NoBreak
  | .void => iff_of_true (by decide : NoBreak "()") trivial
  | .bool b => iff_of_true (noBreak_bool b) trivial
  | .u32 n => iff_of_true (noBreak_nat _) trivial
  | .i32 n => iff_of_true (noBreak_int _) trivial
  | .u64 n => iff_of_true (noBreak_nat _) trivial
  | .i64 n => iff_of_true (noBreak_int _) trivial
  | .u128 p => iff_of_true (noBreak_nat _) trivial
  | .i128 p => iff_of_true (noBreak_int _) trivial
  | .symbol s => by
      rw [renderScval_symbol]
      exact noBreak_fromUtf8_getD (by decide)
  | .string s => by
      have shown : (ScVal.string s).NoBreak ↔ ∀ text, fromUtf8 s = some text → NoBreak text :=
        Iff.rfl
      rw [renderScval_string, shown]
      rcases fromUtf8 s with _ | text
      · exact iff_of_true (by decide : NoBreak "String(<non-utf8>)") nofun
      · simp only [noBreak_append, Option.some.injEq, forall_eq']
        exact (and_iff_left (by decide)).trans (and_iff_right (by decide))
  | .bytes b => iff_of_true (noBreak_renderBytes b) trivial
  | .address a => iff_of_true (noBreak_renderAddress texts a) trivial
  | .vec none => iff_of_true (by decide : NoBreak "[]") trivial
  | .vec (some vec) => by
      rw [renderScval_vec, ScVal.noBreak_vec, noBreak_append, noBreak_append,
        noBreak_intercalate, noBreaks_renderScvals vec]
      exact (and_iff_left (by decide)).trans (and_iff_right (by decide))
  | .map none => iff_of_true (by decide : NoBreak "\x7b\x7d") trivial
  | .map (some m) => by
      rw [renderScval_map, ScVal.noBreak_map, noBreak_append, noBreak_append,
        noBreak_intercalate, noBreak_renderEntries m]
      exact (and_iff_left (by decide)).trans (and_iff_right (by decide))
  | .error _ => iff_of_true (texts.noBreak_debugScval _ trivial) trivial
  | .timepoint _ => iff_of_true (texts.noBreak_debugScval _ trivial) trivial
  | .duration _ => iff_of_true (texts.noBreak_debugScval _ trivial) trivial
  | .u256 _ => iff_of_true (texts.noBreak_debugScval _ trivial) trivial
  | .i256 _ => iff_of_true (texts.noBreak_debugScval _ trivial) trivial
  | .contractInstance _ _ => iff_of_true (texts.noBreak_debugScval _ trivial) trivial
  | .ledgerKeyContractInstance => iff_of_true (texts.noBreak_debugScval _ trivial) trivial
  | .ledgerKeyNonce _ => iff_of_true (texts.noBreak_debugScval _ trivial) trivial

theorem noBreaks_renderScvals :
    ∀ vs : List ScVal, (∀ t ∈ renderScvals texts vs, NoBreak t) ↔ NoBreaks vs
  | [] => iff_of_true nofun trivial
  | v :: vs => by
      rw [renderScvals, NoBreaks, List.forall_mem_cons, noBreak_renderScval v,
        noBreaks_renderScvals vs]

theorem noBreak_renderEntries :
    ∀ es : List (ScVal × ScVal), (∀ t ∈ renderEntries texts es, NoBreak t) ↔ EntriesNoBreak es
  | [] => iff_of_true nofun trivial
  | e :: es => by
      rw [renderEntries, EntriesNoBreak, List.forall_mem_cons, noBreak_renderEntry e,
        noBreak_renderEntries es]

theorem noBreak_renderEntry :
    ∀ e : ScVal × ScVal, NoBreak (renderEntry texts e) ↔ EntryNoBreak e
  | (key, val) => by
      rw [renderEntry, EntryNoBreak, noBreak_append, noBreak_append, noBreak_renderScval key,
        noBreak_renderScval val, and_iff_left (by decide : NoBreak ": ")]

end

end

end SorobanFork
