import SorobanFork.Sample

/-!
# Live-until ledgers across a transaction

The host reports the new live-until ledger of an entry as the TTL part of its
change.  `apply_changes` takes it over for the entries a transaction writes,
but skips every read-only change, and a written entry whose change has no TTL
part loses the live-until it had.  `keepsLiveUntil_iff` says for which batches
neither matters.
-/

namespace SorobanFork

section

variable {X : Xdr}

namespace RpcSnapshotSource

/-- The cached live-until of a key; `none` if there is no entry. -/
def liveUntil (s : RpcSnapshotSource X) (key : LedgerKey) : Option UInt32 :=
  (s.cached key).join.bind (·.2)

/-- The live-until a change asks for: that of its TTL part, or the one before. -/
def expectedLiveUntil (s : RpcSnapshotSource X) (change : LedgerEntryChange X) : Option UInt32 :=
  match change.ttlChange with
  | some ttl => some ttl.newLiveUntilLedger
  | none => s.liveUntil change.key

/-- Applying the batch loses no live-until: each change that writes an entry, or
only reads one the cache holds, leaves the live-until it asks for, and the other
keys keep theirs. -/
structure KeepsLiveUntil (s : RpcSnapshotSource X) (changes : List (LedgerEntryChange X)) :
    Prop where
  written : ∀ change ∈ changes, change.readOnly = false → change.encodedNewValue.isSome →
    (s.applyChanges changes).2.liveUntil change.key = s.expectedLiveUntil change
  read : ∀ change ∈ changes, change.readOnly = true → (s.cached change.key).join.isSome →
    (s.applyChanges changes).2.liveUntil change.key = s.expectedLiveUntil change
  other : ∀ key, (∀ change ∈ changes, change.key ≠ key) →
    (s.applyChanges changes).2.liveUntil key = s.liveUntil key

variable {s : RpcSnapshotSource X} {changes : List (LedgerEntryChange X)}
  {change : LedgerEntryChange X}

/-- A written entry has the live-until of the TTL part, or none. -/
theorem liveUntil_of_written (distinct : (changes.map (·.key)).Nodup) (mem : change ∈ changes)
    (readWrite : change.readOnly = false) (new : change.encodedNewValue.isSome) :
    (s.applyChanges changes).2.liveUntil change.key =
      change.ttlChange.map (·.newLiveUntilLedger) := by
  obtain ⟨bytes, value⟩ := Option.isSome_iff_exists.mp new
  rw [liveUntil, cached_applyChanges_of_mem distinct mem readWrite, LedgerEntryChange.newValue,
    value]
  rfl

/-- An entry that is only read keeps its live-until. -/
theorem liveUntil_of_read (distinct : (changes.map (·.key)).Nodup) (mem : change ∈ changes)
    (readOnly : change.readOnly = true) :
    (s.applyChanges changes).2.liveUntil change.key = s.liveUntil change.key := by
  rw [liveUntil, cached_applyChanges_of_not_mem, liveUntil]
  intro other memOther readWrite same
  have equal := List.inj_on_of_nodup_map distinct memOther mem same
  rw [equal, readOnly] at readWrite
  cases readWrite

/-- **When no live-until is lost.**  Applying a batch with one change for each
key keeps every live-until exactly if each written entry without a TTL part had
none, and each TTL part of an entry that is only read repeats the one it had. -/
theorem keepsLiveUntil_iff (distinct : (changes.map (·.key)).Nodup) :
    s.KeepsLiveUntil changes ↔
      (∀ change ∈ changes, change.readOnly = false → change.encodedNewValue.isSome →
        change.ttlChange = none → s.liveUntil change.key = none) ∧
      (∀ change ∈ changes, change.readOnly = true → (s.cached change.key).join.isSome →
        ∀ ttl, change.ttlChange = some ttl →
          s.liveUntil change.key = some ttl.newLiveUntilLedger) := by
  constructor
  · rintro ⟨written, read, -⟩
    constructor
    · intro change mem readWrite new noTtl
      have kept := written change mem readWrite new
      rw [liveUntil_of_written distinct mem readWrite new, expectedLiveUntil, noTtl] at kept
      exact kept.symm
    · intro change mem readOnly held ttl hasTtl
      have kept := read change mem readOnly held
      rw [liveUntil_of_read distinct mem readOnly, expectedLiveUntil, hasTtl] at kept
      exact kept
  · rintro ⟨written, read⟩
    refine ⟨fun change mem readWrite new => ?_, fun change mem readOnly held => ?_,
      fun key notMem => ?_⟩
    · rw [liveUntil_of_written distinct mem readWrite new, expectedLiveUntil]
      cases ttl : change.ttlChange with
      | none => exact (written change mem readWrite new ttl).symm
      | some ttl => rfl
    · rw [liveUntil_of_read distinct mem readOnly, expectedLiveUntil]
      cases ttl : change.ttlChange with
      | none => rfl
      | some ttl' => exact read change mem readOnly held ttl' ttl
    · rw [liveUntil, cached_applyChanges_of_not_mem fun change mem _ => notMem change mem,
        liveUntil]

end RpcSnapshotSource

end

/-! ## Batches -/

namespace Sample

/-- A source that holds an instance slot until ledger 500 and an account until 900. -/
def liveSource : RpcSnapshotSource xdr :=
  (RpcSnapshotSource.new .strict).preload
    [(slotKey (.contract (bytes32 1)) (.contract (bytes32 1)),
        slotEntry (.contract (bytes32 1)) (.contract (bytes32 1)) .void, some 500),
      ((accountEntry 1 5).1, (accountEntry 1 5).2.1, some 900)]

/-- A change to the slot that only reads it, with the given TTL part. -/
def readSlotChange (ttl : LiveUntilChange) : LedgerEntryChange xdr where
  readOnly := true
  encodedKey := xdr.ledgerKey.encode (slotKey (.contract (bytes32 1)) (.contract (bytes32 1)))
  encodedNewValue := none
  ttlChange := some ttl

/-- A change that writes the account, without a TTL part. -/
def writeAccountChange : LedgerEntryChange xdr where
  readOnly := false
  encodedKey := xdr.ledgerKey.encode (accountEntry 1 6).1
  encodedNewValue := some (xdr.ledgerEntry.encode (accountEntry 1 6).2.1)
  ttlChange := none

/-- Three keys: the slot is read and keeps its live-until, another slot is written with a
TTL part, and an account that is not cached is written without one. -/
def keptBatch : List (LedgerEntryChange xdr) :=
  [readSlotChange ⟨500, 500⟩,
    { readOnly := false
      encodedKey := xdr.ledgerKey.encode (slotKey (.contract (bytes32 2)) (.contract (bytes32 2)))
      encodedNewValue := some (xdr.ledgerEntry.encode
        (slotEntry (.contract (bytes32 2)) (.contract (bytes32 2)) .void))
      ttlChange := some ⟨0, 800⟩ },
    { readOnly := false
      encodedKey := xdr.ledgerKey.encode (accountEntry 2 6).1
      encodedNewValue := some (xdr.ledgerEntry.encode (accountEntry 2 6).2.1)
      ttlChange := none }]

end Sample

open Sample in
theorem keepsLiveUntil_iff_threeKeys :
    liveSource.KeepsLiveUntil keptBatch ∧
      (liveSource.applyChanges keptBatch).2.liveUntil
        (slotKey (.contract (bytes32 2)) (.contract (bytes32 2))) = some 800 := by
  refine ⟨(RpcSnapshotSource.keepsLiveUntil_iff (by decide)).mpr ⟨?_, ?_⟩, by decide⟩
  · intro change mem
    simp only [keptBatch, List.mem_cons, List.not_mem_nil, or_false] at mem
    rcases mem with rfl | rfl | rfl <;> decide
  · intro change mem readOnly held ttl hasTtl
    simp only [keptBatch, List.mem_cons, List.not_mem_nil, or_false] at mem
    rcases mem with rfl | rfl | rfl
    · cases hasTtl
      decide
    · cases readOnly
    · cases readOnly

open Sample in
/-- A transaction extends the slot it only reads to ledger 700, and writes the
account.  Afterwards the slot lives until 500 and the account has no live-until. -/
theorem liveUntil_lost :
    (([readSlotChange ⟨500, 700⟩, writeAccountChange] : List (LedgerEntryChange xdr)).map
        (·.key)).Nodup ∧
      (liveSource.applyChanges [readSlotChange ⟨500, 700⟩, writeAccountChange]).2.liveUntil
        (readSlotChange ⟨500, 700⟩).key = some 500 ∧
      (liveSource.applyChanges [readSlotChange ⟨500, 700⟩, writeAccountChange]).2.liveUntil
        writeAccountChange.key = none ∧
      ¬liveSource.KeepsLiveUntil [readSlotChange ⟨500, 700⟩, writeAccountChange] := by
  refine ⟨by decide, by decide, by decide, fun kept => ?_⟩
  exact absurd (kept.written writeAccountChange (.tail _ (.head _)) rfl rfl) (by decide)

end SorobanFork
