import Mathlib.Data.Vector.Defs

/-!
# Contract values

The XDR value type `ScVal` that contracts pass, store and return, with the
addresses and identifiers that occur in it.  A byte string (`BytesM`,
`StringM`) is a list of bytes, a fixed array (`[u8; 32]`) is a list with its
length, and a vector (`VecM`) is a list: the length limits of the XDR types
are far above anything the modelled code builds.

`ScVal` is nested through lists, so its decidable equality is written out:
`ScVal.beq` compares two values, `ScVal.beq_iff_eq` says that it decides
equality.
-/

namespace SorobanFork

/-- A byte string of an XDR value (`BytesM`, `StringM`). -/
abbrev Bytes : Type := List UInt8

/-- The bytes of a string. -/
def utf8 (s : String) : Bytes := s.toUTF8.data.toList

/-- `str::from_utf8`. -/
def fromUtf8 (bytes : Bytes) : Option String := String.fromUTF8? ⟨bytes.toArray⟩

theorem fromUtf8_eq_some {bytes : Bytes} {s : String} :
    fromUtf8 bytes = some s ↔ bytes = utf8 s := by
  unfold fromUtf8 String.fromUTF8? utf8
  constructor
  · intro decodes
    split at decodes
    · cases decodes
      rfl
    · cases decodes
  · rintro rfl
    have valid : (ByteArray.mk s.toUTF8.data.toList.toArray).IsValidUTF8 := s.isValidUTF8
    rw [dif_pos valid]
    rfl

/-- `[u8; 32]`: a hash, an ed25519 key, a contract id. -/
abbrev Uint256 : Type := List.Vector UInt8 32

abbrev Hash : Type := List.Vector UInt8 32

/-- `[0; 32]`. -/
def zeroBytes32 : List.Vector UInt8 32 := ⟨List.replicate 32 0, rfl⟩

/-- `AccountId(PublicKey::PublicKeyTypeEd25519(Uint256))`. -/
structure AccountId : Type where
  ed25519 : Uint256
deriving DecidableEq

inductive MuxedAccount : Type
  | ed25519 (key : Uint256)
  | muxedEd25519 (id : UInt64) (ed25519 : Uint256)
deriving DecidableEq

inductive ScAddress : Type
  | account (id : AccountId)
  | contract (id : Hash)
  | muxedAccount (id : UInt64) (ed25519 : Uint256)
  | claimableBalance (id : Hash)
  | liquidityPool (id : Hash)
deriving DecidableEq

structure UInt128Parts : Type where
  hi : UInt64
  lo : UInt64
deriving DecidableEq

structure Int128Parts : Type where
  hi : Int64
  lo : UInt64
deriving DecidableEq

structure UInt256Parts : Type where
  hiHi : UInt64
  hiLo : UInt64
  loHi : UInt64
  loLo : UInt64
deriving DecidableEq

structure Int256Parts : Type where
  hiHi : Int64
  hiLo : UInt64
  loHi : UInt64
  loLo : UInt64
deriving DecidableEq

/-- An error value: its type and its code. -/
structure ScError : Type where
  type : UInt32
  code : UInt32
deriving DecidableEq

inductive ContractExecutable : Type
  | wasm (hash : Hash)
  | stellarAsset
deriving DecidableEq

/-- `ScVal`, with one constructor for each XDR variant.  A map is the list of
its entries (key, value); a contract instance is its executable and storage. -/
inductive ScVal : Type
  | bool (b : Bool)
  | void
  | error (e : ScError)
  | u32 (n : UInt32)
  | i32 (n : Int32)
  | u64 (n : UInt64)
  | i64 (n : Int64)
  | timepoint (n : UInt64)
  | duration (n : UInt64)
  | u128 (n : UInt128Parts)
  | i128 (n : Int128Parts)
  | u256 (n : UInt256Parts)
  | i256 (n : Int256Parts)
  | bytes (b : Bytes)
  | string (s : Bytes)
  | symbol (s : Bytes)
  | vec (v : Option (List ScVal))
  | map (m : Option (List (ScVal × ScVal)))
  | address (a : ScAddress)
  | contractInstance (executable : ContractExecutable) (storage : Option (List (ScVal × ScVal)))
  | ledgerKeyContractInstance
  | ledgerKeyNonce (nonce : Int64)

namespace ScVal

mutual

/-- Structural comparison of two values. -/
def beq : ScVal → ScVal → Bool
  | .bool a, .bool b => a == b
  | .void, .void => true
  | .error a, .error b => decide (a = b)
  | .u32 a, .u32 b => decide (a = b)
  | .i32 a, .i32 b => decide (a = b)
  | .u64 a, .u64 b => decide (a = b)
  | .i64 a, .i64 b => decide (a = b)
  | .timepoint a, .timepoint b => decide (a = b)
  | .duration a, .duration b => decide (a = b)
  | .u128 a, .u128 b => decide (a = b)
  | .i128 a, .i128 b => decide (a = b)
  | .u256 a, .u256 b => decide (a = b)
  | .i256 a, .i256 b => decide (a = b)
  | .bytes a, .bytes b => decide (a = b)
  | .string a, .string b => decide (a = b)
  | .symbol a, .symbol b => decide (a = b)
  | .vec a, .vec b => beqVec a b
  | .map a, .map b => beqMap a b
  | .address a, .address b => decide (a = b)
  | .contractInstance a s, .contractInstance b t => decide (a = b) && beqMap s t
  | .ledgerKeyContractInstance, .ledgerKeyContractInstance => true
  | .ledgerKeyNonce a, .ledgerKeyNonce b => decide (a = b)
  | _, _ => false
termination_by structural a => a

def beqVec : Option (List ScVal) → Option (List ScVal) → Bool
  | none, none => true
  | some a, some b => beqList a b
  | _, _ => false
termination_by structural a => a

def beqList : List ScVal → List ScVal → Bool
  | [], [] => true
  | a :: as, b :: bs => beq a b && beqList as bs
  | _, _ => false
termination_by structural a => a

def beqMap : Option (List (ScVal × ScVal)) → Option (List (ScVal × ScVal)) → Bool
  | none, none => true
  | some a, some b => beqEntries a b
  | _, _ => false
termination_by structural a => a

def beqEntries : List (ScVal × ScVal) → List (ScVal × ScVal) → Bool
  | [], [] => true
  | a :: as, b :: bs => beqEntry a b && beqEntries as bs
  | _, _ => false
termination_by structural a => a

def beqEntry : ScVal × ScVal → ScVal × ScVal → Bool
  | (k, v), (l, w) => beq k l && beq v w
termination_by structural a => a

end

mutual

theorem beq_iff_eq : ∀ a b : ScVal, beq a b = true ↔ a = b
  | .bool _, b => by cases b <;> simp [beq]
  | .void, b => by cases b <;> simp [beq]
  | .error _, b => by cases b <;> simp [beq]
  | .u32 _, b => by cases b <;> simp [beq]
  | .i32 _, b => by cases b <;> simp [beq]
  | .u64 _, b => by cases b <;> simp [beq]
  | .i64 _, b => by cases b <;> simp [beq]
  | .timepoint _, b => by cases b <;> simp [beq]
  | .duration _, b => by cases b <;> simp [beq]
  | .u128 _, b => by cases b <;> simp [beq]
  | .i128 _, b => by cases b <;> simp [beq]
  | .u256 _, b => by cases b <;> simp [beq]
  | .i256 _, b => by cases b <;> simp [beq]
  | .bytes _, b => by cases b <;> simp [beq]
  | .string _, b => by cases b <;> simp [beq]
  | .symbol _, b => by cases b <;> simp [beq]
  | .vec v, b => by cases b <;> simp [beq, beqVec_iff_eq v]
  | .map m, b => by cases b <;> simp [beq, beqMap_iff_eq m]
  | .address _, b => by cases b <;> simp [beq]
  | .contractInstance _ s, b => by cases b <;> simp [beq, beqMap_iff_eq s]
  | .ledgerKeyContractInstance, b => by cases b <;> simp [beq]
  | .ledgerKeyNonce _, b => by cases b <;> simp [beq]

theorem beqVec_iff_eq : ∀ a b : Option (List ScVal), beqVec a b = true ↔ a = b
  | none, b => by cases b <;> simp [beqVec]
  | some a, b => by cases b <;> simp [beqVec, beqList_iff_eq a]

theorem beqList_iff_eq : ∀ a b : List ScVal, beqList a b = true ↔ a = b
  | [], b => by cases b <;> simp [beqList]
  | a :: as, b => by cases b <;> simp [beqList, beq_iff_eq a, beqList_iff_eq as]

theorem beqMap_iff_eq : ∀ a b : Option (List (ScVal × ScVal)), beqMap a b = true ↔ a = b
  | none, b => by cases b <;> simp [beqMap]
  | some a, b => by cases b <;> simp [beqMap, beqEntries_iff_eq a]

theorem beqEntries_iff_eq : ∀ a b : List (ScVal × ScVal), beqEntries a b = true ↔ a = b
  | [], b => by cases b <;> simp [beqEntries]
  | a :: as, b => by cases b <;> simp [beqEntries, beqEntry_iff_eq a, beqEntries_iff_eq as]

theorem beqEntry_iff_eq : ∀ a b : ScVal × ScVal, beqEntry a b = true ↔ a = b
  | (k, v), (l, w) => by simp [beqEntry, beq_iff_eq k, beq_iff_eq v]

end

instance : DecidableEq ScVal := fun a b => decidable_of_iff _ (beq_iff_eq a b)

end ScVal

/-- Two values that differ deep inside are told apart by computation. -/
example : ScVal.vec (some [.map (some [(.u32 1, .void)])]) ≠
    .vec (some [.map (some [(.u32 2, .void)])]) := by
  decide

end SorobanFork
