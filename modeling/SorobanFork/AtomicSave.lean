import SorobanFork.Lib.FileSystem
import SorobanFork.Persistence

/-!
# Saves in small steps

`saveSnapshot` of the cache file is one step of the model, all or nothing.  The
code takes many: it writes a temporary file piece by piece and renames it.
`SaveJob.saveSnapshot` is that sequence of file operations.

Alone it does what the one step does (`run_saveSnapshot`).  Among any number of
others on the same file, which fail or crash wherever they like, the file is
still replaced as a whole (`saves_are_atomic`), so it loads at every moment
(`file_always_loads`).
-/

namespace SorobanFork

open Lib

/-- A lossless file format whose files are sequences of items; for the JSON of
`soroban-ledger-snapshot` these are bytes. -/
structure StreamFormat : Type 1 where
  Item : Type
  serialise : LedgerSnapshot → List Item
  parse : List Item → Except String LedgerSnapshot
  parse_serialise : ∀ snapshot, parse (serialise snapshot) = .ok snapshot

/-- The same format, with whole files as contents. -/
def StreamFormat.snapshotFormat (format : StreamFormat) : SnapshotFormat where
  Contents := List format.Item
  write := format.serialise
  read := format.parse
  read_write := format.parse_serialise

/-- The arguments of a call of `save_snapshot`, but for the path. -/
structure SaveCall : Type where
  stamp : SaveStamp
  entries : List (LedgerKey × LedgerEntry × Option UInt32)
  sequence : UInt32
  timestamp : UInt64
  networkId : Hash
  protocolVersion : UInt32

def SaveCall.snapshot (call : SaveCall) : LedgerSnapshot where
  protocolVersion := call.protocolVersion
  sequenceNumber := call.sequence
  timestamp := call.timestamp
  networkId := call.networkId
  baseReserve := defaultBaseReserve
  minPersistentEntryTtl := defaultMinPersistentEntryTtl
  minTempEntryTtl := defaultMinTempEntryTtl
  maxEntryTtl := defaultMaxEntryTtl
  ledgerEntries := call.entries

/-- A call, and the pieces in which its snapshot is written. -/
structure SaveJob (format : StreamFormat) : Type extends SaveCall where
  pieces : List (List format.Item)
  whole : pieces.flatten = format.serialise toSaveCall.snapshot

namespace SaveJob

variable {format : StreamFormat}

def replacement (path : Path) (job : SaveJob format) :
    Replacement Path format.Item ForkError where
  temp := tmpSibling job.stamp path
  target := path
  pieces := job.pieces
  writeError := .cache (tmpSibling job.stamp path)
  renameError message :=
    .cache path
      s!"rename {(tmpSibling job.stamp path).display} -> {path.display}: {message}"

/-- `save_snapshot` as a program of file operations. -/
def saveSnapshot (path : Path) (job : SaveJob format) :
    Prog (FileOp Path format.Item) FileOp.Reply (Except ForkError Unit) :=
  (job.replacement path).save

theorem contents_replacement (path : Path) (job : SaveJob format) :
    (job.replacement path).contents = format.serialise job.snapshot := job.whole

end SaveJob

section

variable {format : StreamFormat} {path : Path} {faults : Nat → Option FileFault}
  {fs : FileSystem Path format.Item}

/-- **The steps refine the one step.**  A save that nobody interferes with has
the result and the files of `saveSnapshot`, for some of its failures. -/
theorem run_saveSnapshot (job : SaveJob format) (path : Path) (faults : Nat → Option FileFault)
    (fs : FileSystem Path format.Item) :
    ∃ saveFaults out fs',
      (job.saveSnapshot path).run (FileSystem.serve faults) fs = (.ok out, fs') ∧
      saveSnapshot format.snapshotFormat saveFaults job.stamp path job.entries job.sequence
        job.timestamp job.networkId job.protocolVersion fs.files = (out, fs'.files) := by
  obtain ⟨out, fs', ran, outcome⟩ := (job.replacement path).run_save faults fs
  rcases outcome with ⟨message, left, rfl, after⟩ | ⟨message, left, rfl, after⟩ | ⟨rfl, after⟩
  · exact ⟨⟨some (message, left), none⟩, _, fs', ran, Prod.ext rfl after.symm⟩
  · exact ⟨⟨none, some (message, left)⟩, _, fs', ran, Prod.ext rfl after.symm⟩
  · refine ⟨.none, _, fs', ran, Prod.ext rfl ?_⟩
    rw [after, SaveJob.contents_replacement]
    rfl

variable {κ : Type} [DecidableEq κ] {jobs : κ → SaveJob format} {schedule : List κ}

/-- The system of saves to one path. -/
def savers (path : Path) (jobs : κ → SaveJob format) (fs : FileSystem Path format.Item) :
    Clients κ (FileOp Path format.Item) FileOp.Reply Empty (FileSystem Path format.Item)
      (Except ForkError Unit) where
  progs k := .ok ((jobs k).saveSnapshot path)
  server := fs

/-- How far the saves have come: which was renamed last, and what the file holds. -/
theorem run_savers (jobs : κ → SaveJob format) (faults : Nat → Option FileFault)
    (distinct : Function.Injective fun k => tmpSibling (jobs k).stamp path)
    (fresh : fs.renames = []) (schedule : List κ) :
    let reached := Clients.run (FileSystem.serve faults) schedule (savers path jobs fs)
    ((reached.server.renames = [] ∧ reached.server.files path = fs.files path) ∨
      ∃ k earlier, reached.server.renames = (tmpSibling (jobs k).stamp path, path) :: earlier ∧
        reached.server.files path = some (format.serialise (jobs k).snapshot)) ∧
    ∀ k, reached.progs k = .ok (.ret (.ok ())) →
      (tmpSibling (jobs k).stamp path, path) ∈ reached.server.renames := by
  obtain ⟨atomic, renamed⟩ := Replacement.run_atomic
    (fun k => (jobs k).replacement path) path faults (fun _ => rfl)
    (fun k => tmpSibling_ne (jobs k).stamp path) distinct fresh schedule
  refine ⟨?_, renamed⟩
  rcases atomic with untouched | ⟨k, earlier, renames, replaced⟩
  · exact .inl untouched
  · rw [SaveJob.contents_replacement] at replaced
    exact .inr ⟨k, earlier, renames, replaced⟩

/-- **Saves are atomic.**  In every interleaving of saves to one file, the file
is as it was or the complete snapshot of one of them.  A save that returned `Ok`
was renamed onto it, and as long as no later one was, the file is its snapshot. -/
theorem saves_are_atomic (faults : Nat → Option FileFault)
    (distinct : Function.Injective fun k => tmpSibling (jobs k).stamp path)
    (fresh : fs.renames = []) (schedule : List κ) :
    let reached := Clients.run (FileSystem.serve faults) schedule (savers path jobs fs)
    (reached.server.files path = fs.files path ∨
      ∃ k, reached.server.files path = some (format.serialise (jobs k).snapshot)) ∧
    ∀ k, reached.progs k = .ok (.ret (.ok ())) →
      (tmpSibling (jobs k).stamp path, path) ∈ reached.server.renames ∧
      (reached.server.renames.head? = some (tmpSibling (jobs k).stamp path, path) →
        reached.server.files path = some (format.serialise (jobs k).snapshot)) := by
  intro reached
  obtain ⟨atomic, renamed⟩ := run_savers jobs faults distinct fresh schedule
  refine ⟨?_, fun k ended => ⟨renamed k ended, fun last => ?_⟩⟩
  · rcases atomic with ⟨-, same⟩ | ⟨k, -, -, replaced⟩
    · exact .inl same
    · exact .inr ⟨k, replaced⟩
  · rcases atomic with ⟨none, -⟩ | ⟨j, earlier, renames, replaced⟩
    · exact absurd last (by simp [reached, none])
    · rw [show reached.server.renames = _ :: earlier from renames, List.head?_cons,
        Option.some.injEq, Prod.mk.injEq] at last
      have same : j = k := distinct last.1
      rw [← same]
      exact replaced

/-- A file that loads before the saves loads at every moment of them. -/
theorem file_always_loads (faults : Nat → Option FileFault)
    (distinct : Function.Injective fun k => tmpSibling (jobs k).stamp path)
    (fresh : fs.renames = []) (schedule : List κ)
    {entries : List (LedgerKey × LedgerEntry × Option UInt32)}
    (loaded : loadSnapshot format.snapshotFormat path fs.files = .ok entries) :
    ∃ entries', loadSnapshot format.snapshotFormat path
      (Clients.run (FileSystem.serve faults) schedule (savers path jobs fs)).server.files =
        .ok entries' := by
  rcases (run_savers jobs faults distinct fresh schedule).1 with
    ⟨-, same⟩ | ⟨k, -, -, saved⟩
  · refine ⟨entries, ?_⟩
    unfold loadSnapshot at loaded ⊢
    rwa [same]
  · have written : (Clients.run (FileSystem.serve faults) schedule
        (savers path jobs fs)).server.files path =
          some (format.snapshotFormat.write (jobs k).snapshot) := saved
    exact ⟨_, loadSnapshot_of_write written⟩

end

/-! ## Two savers -/

namespace Sample

/-- What a snapshot file is made of: an opening, the snapshot, and a closing. -/
inductive Token : Type
  | opening
  | body (snapshot : LedgerSnapshot)
  | closing

def streamFormat : StreamFormat where
  Item := Token
  serialise snapshot := [.opening, .body snapshot, .closing]
  parse
    | [.opening, .body snapshot, .closing] => .ok snapshot
    | _ => .error "EOF while parsing an object"
  parse_serialise _ := rfl

def saveCall (nanos : Nat) (entries : List (LedgerKey × LedgerEntry × Option UInt32)) :
    SaveCall where
  stamp := ⟨1, nanos⟩
  entries := entries
  sequence := 100
  timestamp := 1000
  networkId := bytes32 9
  protocolVersion := 25

/-- A save that writes its snapshot in two pieces. -/
def saveJob (nanos : Nat) (entries : List (LedgerKey × LedgerEntry × Option UInt32)) :
    SaveJob streamFormat where
  toSaveCall := saveCall nanos entries
  pieces := [[.opening], [.body (saveCall nanos entries).snapshot, .closing]]
  whole := rfl

/-- One saves an account, the other the slot of the contract. -/
def accountAndSlot : Bool → SaveJob streamFormat
  | true => saveJob 1 [accountEntry 1 5]
  | false => saveJob 2 [(ownSlot, ownSlotEntry, none)]

/-- An empty disk. -/
def noFiles : FileSystem Path Token := ⟨fun _ => none, 0, []⟩

/-- The second write of the second saver fails half-way. -/
def fourthFails (n : Nat) : Option FileFault := if n = 4 then some ⟨"disk full", 1⟩ else none

end Sample

open Sample in
theorem saves_are_atomic_accountAndSlot :
    let path : Path := ⟨"", "cache.json"⟩
    let reached := Clients.run (FileSystem.serve fourthFails)
      [true, false, false, true, false, true, true] (savers path accountAndSlot noFiles)
    (reached.server.files path = noFiles.files path ∨
      ∃ k, reached.server.files path = some (streamFormat.serialise (accountAndSlot k).snapshot)) ∧
    ∀ k, reached.progs k = .ok (.ret (.ok ())) →
      (tmpSibling (accountAndSlot k).stamp path, path) ∈ reached.server.renames ∧
      (reached.server.renames.head? = some (tmpSibling (accountAndSlot k).stamp path, path) →
        reached.server.files path =
          some (streamFormat.serialise (accountAndSlot k).snapshot)) := by
  refine saves_are_atomic fourthFails ?_ rfl _
  intro j k same
  cases j <;> cases k
  · rfl
  · exact absurd same (by decide)
  · exact absurd same (by decide)
  · rfl

end SorobanFork
