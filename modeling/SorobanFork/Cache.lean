import SorobanFork.Source

/-!
# The cache file (`cache.rs`)

A snapshot is written to a temporary file next to its target and renamed into
place.  The JSON form belongs to the `soroban-ledger-snapshot` crate and is a
parameter, `SnapshotFormat`, with what the fork relies on: what was written can
be read back.

`saveSnapshot_ok` and `saveSnapshot_error` say that a save is all or nothing,
however its file operations go.
-/

namespace SorobanFork

def defaultBaseReserve : UInt32 := 100

def defaultMinPersistentEntryTtl : UInt32 := 4096

def defaultMinTempEntryTtl : UInt32 := 16

def defaultMaxEntryTtl : UInt32 := 6312000

/-- What `soroban-ledger-snapshot` stores in a file. -/
structure LedgerSnapshot : Type where
  protocolVersion : UInt32
  sequenceNumber : UInt32
  timestamp : UInt64
  networkId : Hash
  baseReserve : UInt32
  minPersistentEntryTtl : UInt32
  minTempEntryTtl : UInt32
  maxEntryTtl : UInt32
  ledgerEntries : List (LedgerKey × LedgerEntry × Option UInt32)

/-- A lossless file format for snapshots. -/
structure SnapshotFormat : Type 1 where
  Contents : Type
  write : LedgerSnapshot → Contents
  read : Contents → Except String LedgerSnapshot
  read_write : ∀ snapshot, read (write snapshot) = .ok snapshot

/-- The files on disk. -/
abbrev Disk (format : SnapshotFormat) : Type := Path → Option format.Contents

/-- How the file operations of a save go; `none` is success.  A write that
fails may leave anything behind, and so may the removal of the temporary file
after a rename that fails. -/
structure SaveFaults (format : SnapshotFormat) : Type where
  write : Option (String × Option format.Contents)
  rename : Option (String × Option format.Contents)

/-- Every file operation succeeds. -/
def SaveFaults.none {format : SnapshotFormat} : SaveFaults format := ⟨.none, .none⟩

/-- What makes the names of temporary files differ: the process and the clock. -/
structure SaveStamp : Type where
  pid : UInt32
  nanos : Nat

variable (format : SnapshotFormat)

def loadSnapshot (path : Path) (disk : Disk format) :
    Except ForkError (List (LedgerKey × LedgerEntry × Option UInt32)) :=
  match disk path with
  | none => .error (.cache path "No such file or directory (os error 2)")
  | some contents =>
    match format.read contents with
    | .error message => .error (.cache path message)
    | .ok snapshot => .ok snapshot.ledgerEntries

/-- `.{filename}.tmp.{pid}.{nanos}`, in the directory of the target. -/
def tmpSibling (stamp : SaveStamp) (path : Path) : Path where
  parent := path.parent
  fileName := "." ++ path.fileName ++ ".tmp." ++ toString stamp.pid ++ "." ++ toString stamp.nanos

def saveSnapshot (faults : SaveFaults format) (stamp : SaveStamp) (path : Path)
    (entries : List (LedgerKey × LedgerEntry × Option UInt32)) (sequence : UInt32)
    (timestamp : UInt64) (networkId : Hash) (protocolVersion : UInt32) (disk : Disk format) :
    Except ForkError Unit × Disk format :=
  let snapshot : LedgerSnapshot :=
    { protocolVersion := protocolVersion
      sequenceNumber := sequence
      timestamp := timestamp
      networkId := networkId
      baseReserve := defaultBaseReserve
      minPersistentEntryTtl := defaultMinPersistentEntryTtl
      minTempEntryTtl := defaultMinTempEntryTtl
      maxEntryTtl := defaultMaxEntryTtl
      ledgerEntries := entries }
  let tmp := tmpSibling stamp path
  match faults.write with
  | some (message, left) => (.error (.cache tmp message), Function.update disk tmp left)
  | none =>
    let contents := format.write snapshot
    match faults.rename with
    | some (message, left) =>
      (.error (.cache path s!"rename {tmp.display} -> {path.display}: {message}"),
        Function.update disk tmp left)
    | none => (.ok (), Function.update (Function.update disk tmp none) path (some contents))

section

variable {format} {faults : SaveFaults format} {stamp : SaveStamp} {path : Path}
  {entries : List (LedgerKey × LedgerEntry × Option UInt32)} {sequence : UInt32}
  {timestamp : UInt64} {networkId : Hash} {protocolVersion : UInt32} {disk disk' : Disk format}

/-- The temporary file is another file: its name is longer. -/
theorem tmpSibling_ne (stamp : SaveStamp) (path : Path) : tmpSibling stamp path ≠ path := by
  intro same
  have lengths := congrArg (·.fileName.length) same
  simp only [tmpSibling, String.length_append] at lengths
  have dot : ".".length = 1 := rfl
  omega

/-- A snapshot that was written loads as its entries. -/
theorem loadSnapshot_of_write {snapshot : LedgerSnapshot}
    (written : disk path = some (format.write snapshot)) :
    loadSnapshot format path disk = .ok snapshot.ledgerEntries := by
  simp only [loadSnapshot, written, format.read_write]

/-- A save that succeeds leaves a file that loads as the saved entries. -/
theorem saveSnapshot_ok
    (saved : saveSnapshot format faults stamp path entries sequence timestamp networkId
      protocolVersion disk = (.ok (), disk')) :
    loadSnapshot format path disk' = .ok entries := by
  unfold saveSnapshot at saved
  rcases faults with ⟨_ | ⟨message, left⟩, _ | ⟨message', left'⟩⟩
  · obtain ⟨-, rfl⟩ := Prod.mk.inj saved
    exact loadSnapshot_of_write (Function.update_self _ _ _)
  all_goals exact absurd (congrArg Prod.fst saved) (by simp)

/-- A save that fails leaves the previous file as it was. -/
theorem saveSnapshot_error {error : ForkError}
    (saved : saveSnapshot format faults stamp path entries sequence timestamp networkId
      protocolVersion disk = (.error error, disk')) :
    disk' path = disk path := by
  have other : path ≠ tmpSibling stamp path := (tmpSibling_ne stamp path).symm
  unfold saveSnapshot at saved
  rcases faults with ⟨_ | ⟨message, left⟩, _ | ⟨message', left'⟩⟩
  · exact absurd (congrArg Prod.fst saved) (by simp)
  all_goals
    obtain ⟨-, rfl⟩ := Prod.mk.inj saved
    exact Function.update_of_ne other _ _

/-- No other file changes. -/
theorem saveSnapshot_frame {other : Path} (notTarget : other ≠ path)
    (notTmp : other ≠ tmpSibling stamp path) :
    (saveSnapshot format faults stamp path entries sequence timestamp networkId
      protocolVersion disk).2 other = disk other := by
  unfold saveSnapshot
  rcases faults with ⟨_ | ⟨message, left⟩, _ | ⟨message', left'⟩⟩
  · exact (Function.update_of_ne notTarget _ _).trans (Function.update_of_ne notTmp _ _)
  all_goals exact Function.update_of_ne notTmp _ _

theorem saveSnapshot_none :
    (saveSnapshot format .none stamp path entries sequence timestamp networkId
      protocolVersion disk).1 = .ok () := rfl

end

end SorobanFork
