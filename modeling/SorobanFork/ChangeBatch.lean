import Mathlib.Data.Finmap
import SorobanFork.Lib.Overlay
import SorobanFork.Sample

/-!
# A batch of changes, as bytes

`apply_changes` gets bytes from the host and parses only the keys of the read-write
changes; a key that does not parse is a panic.  `applyRawChanges` is that function,
with the cache as a `Finmap`, so that equal caches are the ones that hold the same.
On changes that parse it does what `applyChanges` does (`applyRawChanges_raw`).

`batch_order_and_repetition`: such a batch can be applied twice, and in any order if it has
one read-write change for each key.
-/

namespace SorobanFork

open Lib

/-- One change as the host reports it; the size of the old entry is not read. -/
structure RawLedgerEntryChange (X : Xdr) : Type where
  readOnly : Bool
  encodedKey : X.Buf
  encodedNewValue : Option X.Buf
  ttlChange : Option LiveUntilChange

/-- Bytes of an entry, which may not parse, and its live-until ledger. -/
abbrev RawBytes (X : Xdr) : Type := X.Buf × Option UInt32

/-- `BTreeMap<LedgerKey, Option<CachedBytes>>`, up to the shape of the tree. -/
abbrev RawCache (X : Xdr) : Type := Finmap fun _ : LedgerKey => Option (RawBytes X)

variable {X : Xdr}

/-- One iteration of the loop of `apply_changes`, on the count and the cache. -/
def applyRawChange (acc : UInt32 × RawCache X) (change : RawLedgerEntryChange X) :
    Except String (UInt32 × RawCache X) :=
  if change.readOnly then .ok acc
  else
    match X.ledgerKey.fromXdr change.encodedKey with
    | none =>
      let e := X.ledgerKey.errorText change.encodedKey
      .error s!"apply_changes: bad LedgerKey from host: {e}"
    | some key =>
      match change.encodedNewValue with
      | some bytes =>
        let liveUntil := change.ttlChange.map (·.newLiveUntilLedger)
        .ok (saturatingAdd32 acc.1 1, acc.2.insert key (some (bytes, liveUntil)))
      | none => .ok (saturatingAdd32 acc.1 1, acc.2.insert key none)

/-- The count and the cache afterwards, or the text of the panic. -/
def applyRawChanges (changes : List (RawLedgerEntryChange X)) (cache : RawCache X) :
    Except String (UInt32 × RawCache X) :=
  changes.foldlM applyRawChange (0, cache)

namespace RawLedgerEntryChange

/-- The key that a change writes, if it is read-write and its key parses. -/
def writtenKey (change : RawLedgerEntryChange X) : Option LedgerKey :=
  if change.readOnly then none else X.ledgerKey.fromXdr change.encodedKey

/-- What a read-write change leaves under its key. -/
def value (change : RawLedgerEntryChange X) : Option (RawBytes X) :=
  change.encodedNewValue.map fun bytes => (bytes, change.ttlChange.map (·.newLiveUntilLedger))

/-- What a change writes, and where. -/
def write (change : RawLedgerEntryChange X) : Option (LedgerKey × Option (RawBytes X)) :=
  change.writtenKey.map fun key => (key, change.value)

end RawLedgerEntryChange

/-- The keys of the read-write changes parse. -/
def KeysDecode (changes : List (RawLedgerEntryChange X)) : Prop :=
  ∀ change ∈ changes, change.readOnly = false → change.writtenKey.isSome

instance (changes : List (RawLedgerEntryChange X)) : Decidable (KeysDecode changes) :=
  inferInstanceAs (Decidable (∀ change ∈ changes, _))

/-- Insert a list of values. -/
def RawCache.insertAll (writes : List (LedgerKey × Option (RawBytes X))) (cache : RawCache X) :
    RawCache X :=
  writes.foldl (fun cache write => cache.insert write.1 write.2) cache

section Writes

variable {cache : RawCache X} {changes : List (RawLedgerEntryChange X)} {key : LedgerKey}

theorem lookup_insertAll (writes : List (LedgerKey × Option (RawBytes X))) :
    (fun key => (cache.insertAll writes).lookup key) =
      writeAll Prod.fst Prod.snd writes fun key => cache.lookup key := by
  induction writes generalizing cache with
  | nil => rfl
  | cons write writes ih =>
      refine ih.trans ?_
      rw [writeAll, writeAll, List.foldl_cons]
      congr 1
      funext key
      by_cases same : key = write.1
      · subst same
        rw [Finmap.lookup_insert, Function.update_self]
      · rw [Finmap.lookup_insert_of_ne _ same, Function.update_of_ne same]

theorem insertAll_insertAll (writes : List (LedgerKey × Option (RawBytes X))) :
    (cache.insertAll writes).insertAll writes = cache.insertAll writes := by
  apply Finmap.ext_lookup
  apply congrFun
  rw [lookup_insertAll, lookup_insertAll, writeAll_writeAll]

theorem insertAll_perm {writes writes' : List (LedgerKey × Option (RawBytes X))}
    (distinct : (writes.map Prod.fst).Nodup) (perm : writes'.Perm writes) :
    cache.insertAll writes' = cache.insertAll writes := by
  apply Finmap.ext_lookup
  apply congrFun
  rw [lookup_insertAll, lookup_insertAll, writeAll_perm Prod.fst Prod.snd distinct perm]

theorem applyRawChange_readOnly {change : RawLedgerEntryChange X}
    (readOnly : change.readOnly = true) (acc : UInt32 × RawCache X) :
    applyRawChange acc change = .ok acc := by
  rw [applyRawChange, if_pos readOnly]

theorem applyRawChange_written {change : RawLedgerEntryChange X}
    (written : change.writtenKey = some key) (n : UInt32) :
    applyRawChange (n, cache) change =
      .ok (saturatingAdd32 n 1, cache.insert key change.value) := by
  unfold RawLedgerEntryChange.writtenKey at written
  split_ifs at written with readOnly
  unfold applyRawChange RawLedgerEntryChange.value
  rw [if_neg readOnly, written]
  cases change.encodedNewValue with
  | none => rfl
  | some bytes => rfl

/-- What a batch does whose keys parse: it counts the read-write changes, up to
`u32::MAX`, and inserts their values. -/
theorem applyRawChanges_ok (decode : KeysDecode changes) (cache : RawCache X) :
    applyRawChanges changes cache =
      .ok (UInt32.ofNat (min (changes.countP fun change => !change.readOnly) (2 ^ 32 - 1)),
        cache.insertAll (changes.filterMap (·.write))) := by
  have counted (n : Nat) : changes.foldlM applyRawChange
      (UInt32.ofNat (min n (2 ^ 32 - 1)), cache) =
      .ok (UInt32.ofNat (min (n + changes.countP fun change => !change.readOnly) (2 ^ 32 - 1)),
        cache.insertAll (changes.filterMap (·.write))) := by
    induction changes generalizing n cache with
    | nil => rfl
    | cons change changes ih =>
        have rest : KeysDecode changes := fun c mem => decode c (.tail _ mem)
        rw [List.foldlM_cons, List.countP_cons]
        cases readOnly : change.readOnly with
        | true =>
            have nothing : change.write = none := by
              rw [RawLedgerEntryChange.write, RawLedgerEntryChange.writtenKey, if_pos readOnly,
                Option.map_none]
            rw [applyRawChange_readOnly readOnly, List.filterMap_cons_none nothing]
            exact ih rest cache n
        | false =>
            obtain ⟨key, written⟩ := Option.isSome_iff_exists.mp (decode change (.head _) readOnly)
            have writes : change.write = some (key, change.value) := by
              rw [RawLedgerEntryChange.write, written, Option.map_some]
            rw [applyRawChange_written written, saturatingAdd32_ofNat_one,
              List.filterMap_cons_some writes]
            refine (ih rest (cache.insert key change.value) (n + 1)).trans ?_
            rw [Nat.add_right_comm n 1]
            rfl
  have all := counted 0
  rwa [Nat.zero_add] at all

theorem isSome_writtenKey_of_ok {change : RawLedgerEntryChange X} {acc next : UInt32 × RawCache X}
    (stepped : applyRawChange acc change = .ok next) (readWrite : change.readOnly = false) :
    change.writtenKey.isSome := by
  unfold applyRawChange at stepped
  unfold RawLedgerEntryChange.writtenKey
  rw [readWrite, if_neg Bool.false_ne_true] at stepped ⊢
  cases parsed : X.ledgerKey.fromXdr change.encodedKey with
  | none =>
      rw [parsed] at stepped
      cases stepped
  | some key => rfl

/-- A batch panics exactly when the key of a read-write change does not parse. -/
theorem exists_applyRawChanges_iff (cache : RawCache X) :
    (∃ result, applyRawChanges changes cache = .ok result) ↔ KeysDecode changes := by
  constructor
  · rintro ⟨result, ran⟩
    unfold applyRawChanges at ran
    generalize ((0 : UInt32), cache) = acc at ran
    induction changes generalizing acc with
    | nil => exact fun _ mem => absurd mem List.not_mem_nil
    | cons change changes ih =>
        rw [List.foldlM_cons] at ran
        rcases stepped : applyRawChange acc change with e | next
        · rw [stepped] at ran
          cases ran
        · rw [stepped] at ran
          intro c mem readWrite
          rcases List.mem_cons.mp mem with rfl | mem
          · exact isSome_writtenKey_of_ok stepped readWrite
          · exact ih next ran c mem readWrite
  · exact fun decode => ⟨_, applyRawChanges_ok decode cache⟩

end Writes

/-! ## Changes that parse -/

section Parsed

/-- The bytes of a change whose key and value parse. -/
def LedgerEntryChange.raw (change : LedgerEntryChange X) : RawLedgerEntryChange X where
  readOnly := change.readOnly
  encodedKey := change.encodedKey.1
  encodedNewValue := change.encodedNewValue.map (·.1)
  ttlChange := change.ttlChange

/-- The two caches hold the same bytes. -/
def RawCache.Holds (raw : RawCache X) (cache : Cache X) : Prop :=
  ∀ key, raw.lookup key = (cache.lookup key).map (·.map fun value => (value.1.1, value.2))

variable {raw : RawCache X} {cache : Cache X}

theorem RawCache.Holds.insert (holds : raw.Holds cache) (key : LedgerKey)
    (value : Option (CachedBytes X)) :
    RawCache.Holds (Finmap.insert key (value.map fun value => (value.1.1, value.2)) raw)
      (cache.insert key value) := by
  intro other
  by_cases same : other = key
  · subst same
    rw [Finmap.lookup_insert, AList.lookup_insert, Option.map_some]
  · rw [Finmap.lookup_insert_of_ne _ same, AList.lookup_insert_ne same, holds other]

theorem applyRawChange_raw (holds : raw.Holds cache) (change : LedgerEntryChange X) (n : UInt32) :
    ∃ after, applyRawChange (n, raw) change.raw =
        .ok ((RpcSnapshotSource.applyChange (cache, n) change).2, after) ∧
      after.Holds (RpcSnapshotSource.applyChange (cache, n) change).1 := by
  obtain ⟨readOnly, encodedKey, new, ttlChange⟩ := change
  cases readOnly with
  | true => exact ⟨raw, applyRawChange_readOnly rfl _, holds⟩
  | false =>
      have written : (LedgerEntryChange.raw ⟨false, encodedKey, new, ttlChange⟩).writtenKey =
          some (Codec.decode encodedKey) := (Option.some_get encodedKey.2).symm
      have stepped := @applyRawChange_written X raw _ _ written n
      cases new with
      | none =>
          have inserted := holds.insert (Codec.decode encodedKey) none
          exact ⟨_, stepped, inserted⟩
      | some bytes =>
          have inserted := holds.insert (Codec.decode encodedKey)
            (some (bytes, ttlChange.map (·.newLiveUntilLedger)))
          exact ⟨_, stepped, inserted⟩

/-- On a batch that parses, `applyRawChanges` does what `applyChanges` does. -/
theorem applyRawChanges_raw {s : RpcSnapshotSource X} (holds : raw.Holds s.cache)
    (changes : List (LedgerEntryChange X)) :
    ∃ after, applyRawChanges (changes.map (·.raw)) raw = .ok ((s.applyChanges changes).1, after) ∧
      after.Holds (s.applyChanges changes).2.cache := by
  unfold applyRawChanges RpcSnapshotSource.applyChanges
  revert holds
  generalize s.cache = cache
  generalize (0 : UInt32) = n
  induction changes generalizing raw cache n with
  | nil => exact fun holds => ⟨raw, rfl, holds⟩
  | cons change changes ih =>
      intro holds
      obtain ⟨next, stepped, holds⟩ := applyRawChange_raw holds change n
      rw [List.map_cons, List.foldlM_cons, stepped, List.foldl_cons]
      exact ih _ _ holds

end Parsed

/-! ## Order and repetition -/

section Batches

variable {changes : List (RawLedgerEntryChange X)}

theorem RawLedgerEntryChange.write_eq_some {change : RawLedgerEntryChange X}
    {write : LedgerKey × Option (RawBytes X)} :
    change.write = some write ↔ change.writtenKey = some write.1 ∧ change.value = write.2 := by
  unfold RawLedgerEntryChange.write
  obtain ⟨key, value⟩ := write
  rw [Option.map_eq_some_iff]
  constructor
  · rintro ⟨k, written, same⟩
    cases same
    exact ⟨written, rfl⟩
  · rintro ⟨written, rfl⟩
    exact ⟨key, written, rfl⟩

theorem map_fst_writes : (changes.filterMap (·.write)).map Prod.fst =
    changes.filterMap (·.writtenKey) := by
  rw [List.map_filterMap]
  congr 1
  funext change
  rw [RawLedgerEntryChange.write, Option.map_map]
  exact Option.map_id'

/-- **Order and repetition of a batch.**  A batch whose read-write keys parse is applied, with
the number of its read-write changes, up to `u32::MAX`, as the result.  A key it does not
write is held as before, and one it writes is held as its last change says.  Applied a second
time it changes nothing; if no key is written twice, its order does not matter. -/
theorem batch_order_and_repetition (cache : RawCache X) (decode : KeysDecode changes) :
    ∃ applied after, applyRawChanges changes cache = .ok (applied, after) ∧
      applied.toNat = min (2 ^ 32 - 1) (changes.countP fun change => !change.readOnly) ∧
      (∀ key, (∀ change ∈ changes, change.writtenKey ≠ some key) →
        after.lookup key = cache.lookup key) ∧
      (∀ before change later key, changes = before ++ change :: later →
        change.writtenKey = some key → (∀ c ∈ later, c.writtenKey ≠ some key) →
        after.lookup key = some change.value) ∧
      applyRawChanges changes after = .ok (applied, after) ∧
      ((changes.filterMap (·.writtenKey)).Nodup → ∀ changes', changes'.Perm changes →
        applyRawChanges changes' cache = .ok (applied, after)) := by
  have held (key : LedgerKey) : (cache.insertAll (changes.filterMap (·.write))).lookup key =
      writeAll Prod.fst Prod.snd (changes.filterMap (·.write)) (fun key => cache.lookup key) key :=
    congrFun (lookup_insertAll _) key
  have applied := applyRawChanges_ok decode
  refine ⟨_, _, applied cache, ?_, fun key notWritten => ?_, ?_, ?_, ?_⟩
  · rw [UInt32.toNat_ofNat_of_lt' (by rw [UInt32.size]; omega), Nat.min_comm]
  · refine (held key).trans (writeAll_of_not_mem _ _ fun write mem same => ?_)
    obtain ⟨change, mem, writes⟩ := List.mem_filterMap.mp mem
    obtain ⟨written, -⟩ := RawLedgerEntryChange.write_eq_some.mp writes
    exact notWritten change mem (written.trans (congrArg some same))
  · rintro before change later key rfl written last
    have writes : change.write = some (key, change.value) :=
      RawLedgerEntryChange.write_eq_some.mpr ⟨written, rfl⟩
    refine (held key).trans ?_
    rw [List.filterMap_append, List.filterMap_cons_some writes]
    refine writeAll_of_last Prod.fst Prod.snd (e := (key, change.value)) fun write mem same => ?_
    obtain ⟨c, mem, writes⟩ := List.mem_filterMap.mp mem
    obtain ⟨written', -⟩ := RawLedgerEntryChange.write_eq_some.mp writes
    exact last c mem (written'.trans (congrArg some same))
  · rw [applied, insertAll_insertAll]
  · intro distinct changes' perm
    have decode' : KeysDecode changes' := fun change mem => decode change (perm.mem_iff.mp mem)
    rw [← map_fst_writes] at distinct
    rw [applyRawChanges_ok decode', perm.countP_eq,
      insertAll_perm distinct (perm.filterMap (·.write))]

end Batches

/-! ## Batches of removals -/

namespace Sample

/-- The slots of the contract are numbered. -/
def numberedSlot (n : Nat) : LedgerKey :=
  .contractData (.contract (bytes32 1)) (.u64 (UInt64.ofNat n)) .persistent

def removeSlot (n : Nat) : RawLedgerEntryChange xdr :=
  ⟨false, .ledgerKey (numberedSlot n), none, none⟩

/-- Remove the first `n` slots. -/
def removals (n : Nat) : List (RawLedgerEntryChange xdr) := (List.range n).map removeSlot

theorem keysDecode_removals (n : Nat) : KeysDecode (removals n) := by
  intro change mem _
  obtain ⟨i, -, rfl⟩ := List.mem_map.mp mem
  rfl

theorem nodup_removals {n : Nat} (fits : n ≤ 2 ^ 64) :
    ((removals n).filterMap (·.writtenKey)).Nodup := by
  have keys : (removals n).filterMap (·.writtenKey) = (List.range n).map numberedSlot := by
    rw [removals, List.filterMap_map]
    exact congrFun List.filterMap_eq_map _
  rw [keys]
  refine List.Nodup.map_on (fun i mem j mem' same => ?_) List.nodup_range
  have lt := List.mem_range.mp mem
  have lt' := List.mem_range.mp mem'
  simp only [numberedSlot, LedgerKey.contractData.injEq, ScVal.u64.injEq, true_and,
    and_true] at same
  have numbers := congrArg UInt64.toNat same
  rwa [UInt64.toNat_ofNat_of_lt' (by rw [UInt64.size]; omega),
    UInt64.toNat_ofNat_of_lt' (by rw [UInt64.size]; omega)] at numbers

theorem countP_removals (n : Nat) : (removals n).countP (fun change => !change.readOnly) = n := by
  rw [removals, List.countP_map]
  exact (List.countP_eq_length.mpr fun _ _ => rfl).trans List.length_range

end Sample

open Sample in
/-- The count saturates: a batch that removes `2 ^ 32` different slots counts one less. -/
theorem count_saturates :
    KeysDecode (removals (2 ^ 32)) ∧ ((removals (2 ^ 32)).filterMap (·.writtenKey)).Nodup ∧
      (removals (2 ^ 32)).countP (fun change => !change.readOnly) = 2 ^ 32 ∧
      ∀ cache, ∃ applied after, applyRawChanges (removals (2 ^ 32)) cache = .ok (applied, after) ∧
        applied.toNat = 2 ^ 32 - 1 ∧ applied.toNat ≠ 2 ^ 32 := by
  have all := countP_removals (2 ^ 32)
  refine ⟨keysDecode_removals _, nodup_removals (by decide), all, fun cache => ?_⟩
  refine ⟨_, _, applyRawChanges_ok (keysDecode_removals _) cache, ?_⟩
  rw [all]
  decide

namespace Sample

/-- Bytes that are not an entry, with a live-until. -/
def writeSlot : RawLedgerEntryChange xdr :=
  ⟨false, .ledgerKey (numberedSlot 0), some (.raw [1, 2]), some ⟨5, 9⟩⟩

/-- A change that only reads, under bytes that are not a key. -/
def readSlotRaw : RawLedgerEntryChange xdr := ⟨true, .raw [3], none, some ⟨5, 9⟩⟩

def mixedBatch : List (RawLedgerEntryChange xdr) := [readSlotRaw, writeSlot, removeSlot 1]

end Sample

open Sample in
theorem batch_order_and_repetition_mixed :
    ∃ applied after, applyRawChanges mixedBatch ∅ = .ok (applied, after) ∧ applied.toNat = 2 ∧
      after.lookup (numberedSlot 2) = none ∧
      after.lookup (numberedSlot 0) = some (some (.raw [1, 2], some 9)) ∧
      applyRawChanges mixedBatch after = .ok (applied, after) ∧
      applyRawChanges mixedBatch.reverse ∅ = .ok (applied, after) := by
  have decode : KeysDecode mixedBatch := by decide
  obtain ⟨applied, after, ran, count, others, last, again, ordered⟩ :=
    batch_order_and_repetition ∅ decode
  exact ⟨applied, after, ran, count, others (numberedSlot 2) (by decide),
    last [readSlotRaw] writeSlot [removeSlot 1] (numberedSlot 0) rfl rfl (by decide), again,
    ordered (by decide) _ (List.reverse_perm _)⟩

end SorobanFork
