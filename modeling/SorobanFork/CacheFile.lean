import SorobanFork.Persistence

/-!
# The cache file across a run

A fork built with a cache file is used, may be saved on the way, and is saved
once more when it is dropped.  Any file operation of any save may fail.

An entry that the file held at the start stays an entry of the fork until a
command removes it (`isSome_held_step`), so a save that succeeds brings a file
that still holds it (`cache_file_survives`).  A file that is there but does not
load is another matter: the build starts without it, and the first save
replaces it.
-/

namespace SorobanFork

open Lib

section

variable {X : Xdr} {world : World X} {format : SnapshotFormat}

/-! ## Saving -/

section Save

variable {path : Path}

/-- A save leaves the file as it was, or with the entries of the fork. -/
theorem ForkedEnv.saveCache_cases (env : ForkedEnv X) (faults : SaveFaults format)
    (stamp : SaveStamp) (disk : Disk format) (cachePath : env.cachePath = some path) :
    (env.saveCache format faults stamp disk).2 path = disk path ∨
      loadSnapshot format path (env.saveCache format faults stamp disk).2 =
        .ok env.source.entries := by
  unfold saveCache doSaveCache
  rw [cachePath]
  dsimp only
  split
  · exact .inl rfl
  · rcases saved : saveSnapshot format faults stamp path env.source.entries
      env.forkLedgerSequence env.forkTimestamp env.networkId env.protocolVersion disk with
      ⟨e | ⟨⟩, disk'⟩
    · exact .inl (saveSnapshot_error saved)
    · exact .inr (saveSnapshot_ok saved)

end Save

/-! ## Entries that stay -/

namespace RpcSnapshotSource

variable {s : RpcSnapshotSource X} {k : LedgerKey}

/-- The keys of the exported entries are those that are held. -/
theorem exists_mem_entries_iff : (∃ e ∈ s.entries, e.1 = k) ↔ (s.held k).isSome := by
  rw [Option.isSome_iff_exists]
  constructor
  · rintro ⟨⟨key, found⟩, mem, rfl⟩
    exact ⟨found, Option.join_eq_some_iff.mpr (mem_entries.mp mem)⟩
  · rintro ⟨found, present⟩
    exact ⟨(k, found), mem_entries.mpr (Option.join_eq_some_iff.mp present), rfl⟩

theorem isSome_held_applyChanges {changes : List (LedgerEntryChange X)}
    (kept : ∀ change ∈ changes, change.readOnly = false → change.key = k →
      change.newValue.isSome) (present : (s.held k).isSome) :
    ((s.applyChanges changes).2.held k).isSome := by
  rw [held_applyChanges]
  refine foldl_applyTo_induction (motive := fun m => Option.isSome (m k)) present ?_
  intro m change mem readWrite present
  by_cases same : k = change.key
  · rw [same, Function.update_self]
    exact kept change mem readWrite same.symm
  · rwa [Function.update_of_ne same]

theorem isSome_held_bumpAccountSeq {id : AccountId} (present : (s.held k).isSome) :
    ((s.bumpAccountSeq id).2.held k).isSome := by
  unfold held at present ⊢
  rw [cached_bumpAccountSeq]
  by_cases same : k = .account id
  · rw [same, Function.update_self]
    rw [same] at present
    rcases cached : s.cached (.account id) with _ | _ | found
    · rw [cached] at present
      cases present
    · rw [cached] at present
      cases present
    · rfl
  · rwa [Function.update_of_ne same]

end RpcSnapshotSource

/-- Executed in this state, the command removes the entry at `key`: it is a send
that succeeds with a change that leaves nothing there. -/
def Server.RemovesKey (world : World X) (server : Server X) (key : LedgerKey) :
    Command X → Prop
  | .sendTransaction _ hostFunction sourceAccount =>
    server.alive = true ∧
      ∃ invocation value, (server.worker.env.read world (world.invoke server.worker.env.ledger
          hostFunction sourceAccount)).1 = .ok invocation ∧
        invocation.txResult = .ok value ∧
        ∃ change ∈ invocation.changesToApply,
          change.readOnly = false ∧ change.key = key ∧ change.newValue = none
  | _ => False

/-- An entry stays until a command removes it. -/
theorem Server.isSome_held_step {server : Server X} {key : LedgerKey} {cmd : Command X}
    (notRemoved : ¬server.RemovesKey world key cmd)
    (present : (server.worker.env.source.held key).isSome) :
    ((server.step world cmd).2.worker.env.source.held key).isSome := by
  have ofReads {mid : ForkedEnv X}
      (reads : ForkedEnv.OnlyReads world.client server.worker.env mid) :
      (mid.source.held key).isSome := by
    obtain ⟨found, held⟩ := Option.isSome_iff_exists.mp present
    rw [RpcSnapshotSource.held_of_extends reads.extends_cached held]
    rfl
  rw [Server.step_worker]
  split
  · rename_i alive
    by_cases readOnly : cmd.ReadOnly
    · exact ofReads (Worker.step_onlyReads world _ readOnly).1
    cases cmd with
    | setLedgerEntry k entry liveUntil =>
        rw [Worker.step_setLedgerEntry]
        show ((server.worker.env.source.setEntry k entry liveUntil).held key).isSome
        rw [RpcSnapshotSource.held_of_update (RpcSnapshotSource.cached_setEntry k entry liveUntil)]
        by_cases same : key = k
        · rw [same, Function.update_self]
          rfl
        · rwa [Function.update_of_ne same]
    | closeLedgers ledgers seconds => exact present
    | sendTransaction envelopeBytes hostFunction sourceAccount =>
        rcases sendTransaction_cases world envelopeBytes hostFunction sourceAccount
          ((world.systemTime server.worker.clockReads).getD 0) server.worker.env with
          ⟨panic, mid, -, reads, sent⟩ | ⟨invocation, mid, ran, reads, outcome⟩
        · rw [Worker.step_sendTransaction_of_error sent]
          exact ofReads reads
        · rcases outcome with ⟨message, -, sent⟩ | ⟨value, succeeded, sent⟩
          · rw [Worker.step_sendTransaction_of_ok sent]
            exact ofReads reads
          · rw [Worker.step_sendTransaction_of_ok sent]
            apply RpcSnapshotSource.isSome_held_bumpAccountSeq
            refine RpcSnapshotSource.isSome_held_applyChanges ?_ (ofReads reads)
            intro change mem readWrite same
            by_contra nothing
            exact notRemoved ⟨alive, invocation, value, congrArg Prod.fst ran, succeeded, change,
              mem, readWrite, same, Option.not_isSome_iff_eq_none.mp nothing⟩
    | _ => exact absurd trivial readOnly
  · exact present

/-! ## Using a fork -/

/-- What happens to a fork between its build and its drop: a command, or an
explicit `save_cache`. -/
inductive Use (X : Xdr) (format : SnapshotFormat) : Type
  | command (cmd : Command X)
  | saveCache (faults : SaveFaults format) (stamp : SaveStamp)

def Use.Reply : Use X format → Type
  | .command cmd => Except ActorError cmd.Reply
  | .saveCache _ _ => Except ForkError Unit

/-- A fork in use, and the files on disk. -/
structure Session (X : Xdr) (format : SnapshotFormat) : Type where
  server : Server X
  disk : Disk format

namespace Session

def step (world : World X) : (use : Use X format) → Session X format → use.Reply × Session X format
  | .command cmd, session =>
    let (reply, server) := session.server.step world cmd
    (reply, { session with server := server })
  | .saveCache faults stamp, session =>
    let (result, disk) := session.server.worker.env.saveCache format faults stamp session.disk
    (result, { session with disk := disk })

def machine (world : World X) : Machine (Use X format) Use.Reply (Session X format) :=
  ⟨step world⟩

/-- The fork is dropped: the last save. -/
def drop (faults : SaveFaults format) (stamp : SaveStamp) (session : Session X format) :
    Disk format :=
  session.server.worker.env.drop format faults stamp session.disk

/-- This use of the fork removes the entry at `key`. -/
def RemovesKey (world : World X) (key : LedgerKey) (session : Session X format) :
    Use X format → Prop
  | .command cmd => session.server.RemovesKey world key cmd
  | .saveCache _ _ => False

/-- The run removes the entry at `key` at no point. -/
def Keeps (world : World X) (session : Session X format) (uses : List (Use X format))
    (key : LedgerKey) : Prop :=
  (machine world).AllSteps (fun session use => ¬session.RemovesKey world key use) uses session

/-- The file is as it was at the start, or holds an entry for each of the keys. -/
def FileHolds (path : Path) (start : Option format.Contents) (keys : LedgerKey → Prop)
    (disk : Disk format) : Prop :=
  disk path = start ∨
    ∃ saved, loadSnapshot format path disk = .ok saved ∧ ∀ key, keys key → ∃ e ∈ saved, e.1 = key

variable {path : Path} {start : Option format.Contents} {keys : LedgerKey → Prop}
  {session : Session X format}

/-- The fork holds the keys, and so does its file, unless it was not saved yet. -/
structure Holds (path : Path) (start : Option format.Contents) (keys : LedgerKey → Prop)
    (session : Session X format) : Prop where
  cachePath : session.server.worker.env.cachePath = some path
  held : ∀ key, keys key → (session.server.worker.env.source.held key).isSome
  file : FileHolds path start keys session.disk

/-- A save of a fork that holds the keys keeps them in the file. -/
theorem fileHolds_saveCache (holds : session.Holds path start keys) (faults : SaveFaults format)
    (stamp : SaveStamp) :
    FileHolds path start keys
      (session.server.worker.env.saveCache format faults stamp session.disk).2 := by
  have saves := session.server.worker.env.saveCache_cases faults stamp session.disk holds.cachePath
  rcases saves with same | saved
  · rcases holds.file with untouched | ⟨entries, loaded, all⟩
    · exact .inl (same.trans untouched)
    · refine .inr ⟨entries, ?_, all⟩
      rw [← loaded, loadSnapshot, loadSnapshot, same]
  · refine .inr ⟨_, saved, fun key mem => ?_⟩
    exact RpcSnapshotSource.exists_mem_entries_iff.mpr (holds.held key mem)

/-- A use that removes none of the keys keeps them. -/
theorem holds_step {use : Use X format} (kept : ∀ key, keys key → ¬session.RemovesKey world key use)
    (holds : session.Holds path start keys) : (session.step world use).2.Holds path start keys := by
  cases use with
  | saveCache faults stamp =>
      exact ⟨holds.cachePath, holds.held, fileHolds_saveCache holds faults stamp⟩
  | command cmd =>
      refine ⟨?_, fun key mem => ?_, holds.file⟩
      · show (session.server.step world cmd).2.worker.env.cachePath = some path
        have same : (session.server.step world cmd).2.worker.env.cachePath =
            session.server.worker.env.cachePath := cachePath_run [cmd]
        exact same.trans holds.cachePath
      · exact Server.isSome_held_step (kept key mem) (holds.held key mem)

/-- A run that removes none of the keys keeps them. -/
theorem holds_run {uses : List (Use X format)}
    (kept : ∀ key, keys key → session.Keeps world uses key)
    (holds : session.Holds path start keys) :
    ((machine world).run uses session).2.Holds path start keys := by
  refine (machine world).run_invariant_of
    (fun session use => ∀ key : { key // keys key }, ¬session.RemovesKey world key use) _ ?_
    (Machine.allSteps_forall _ fun key => kept key.1 key.2) holds
  intro use session notRemoved holds
  exact holds_step (fun key mem => notRemoved ⟨key, mem⟩) holds

end Session

/-! ## The file after a run -/

/-- A fork that was spawned: the file it was built next to, and what it holds. -/
theorem Server.spawn_eq_ok {site : Site} {config : ForkConfig} {disk : Disk format}
    {server : Server X} (spawned : Server.spawn format site disk config = .ok server) :
    server.worker.env.cachePath = config.cachePath ∧
      server.worker.env.source = (config.initialSource format disk).preload
        (mintedEntries (generate site.publicKey config.testAccountCount) config.testTrustlines
          server.worker.env.forkLedgerSequence) := by
  unfold Server.spawn at spawned
  rcases built : config.build format site disk with e | env
  · rw [built] at spawned
    cases spawned
  · rw [built] at spawned
    cases spawned
    obtain ⟨cachePath, source, accounts⟩ := ForkConfig.build_eq_ok built
    exact ⟨cachePath, by rw [source, accounts]⟩

/-- The entries of a file that loads are held by the fork built next to it. -/
theorem isSome_held_spawn {site : Site} {config : ForkConfig} {path : Path} {disk : Disk format}
    {server : Server X} {entries : List (LedgerKey × LedgerEntry × Option UInt32)}
    {key : LedgerKey} (cacheFile : config.cachePath = some path)
    (spawned : Server.spawn format site disk config = .ok server)
    (loaded : loadSnapshot format path disk = .ok entries) (mem : ∃ e ∈ entries, e.1 = key) :
    (server.worker.env.source.held key).isSome := by
  have present : (disk path).isSome := by
    unfold loadSnapshot at loaded
    cases file : disk path with
    | none =>
        rw [file] at loaded
        cases loaded
    | some contents => rfl
  obtain ⟨-, source⟩ := Server.spawn_eq_ok spawned
  have initial : ((config.initialSource format disk : RpcSnapshotSource X).held key).isSome := by
    simp only [ForkConfig.initialSource, cacheFile, present, if_true, loaded]
    obtain ⟨found, cached⟩ := RpcSnapshotSource.exists_cached_preload
      (s := (RpcSnapshotSource.new (config.fetchMode.getD .strict) : RpcSnapshotSource X)) mem
    rw [RpcSnapshotSource.held, cached]
    rfl
  rw [source]
  by_cases minted : ∃ e ∈ mintedEntries (generate site.publicKey config.testAccountCount)
      config.testTrustlines server.worker.env.forkLedgerSequence, e.1 = key
  · obtain ⟨found, cached⟩ := RpcSnapshotSource.exists_cached_preload
      (s := (config.initialSource format disk : RpcSnapshotSource X)) minted
    rw [RpcSnapshotSource.held, cached]
    rfl
  · rw [RpcSnapshotSource.held, RpcSnapshotSource.cached_preload_of_not_mem]
    · exact initial
    · exact fun e memEntry same => minted ⟨e, memEntry, same⟩

/-- **The cache file survives.**  After a run and the drop, a file that loaded at
the start is as it was or holds an entry for each of its keys that no command
removed.  A build next to a file that does not load starts without it, and the
drop may replace it; what it leaves then loads.  A drop that saves leaves just
the entries the fork holds. -/
theorem cache_file_survives {site : Site} {config : ForkConfig} {path : Path}
    {disk : Disk format} {server : Server X} {uses : List (Use X format)}
    {last : Session X format} {faults : SaveFaults format} {stamp : SaveStamp}
    (cacheFile : config.cachePath = some path)
    (spawned : Server.spawn format site disk config = .ok server)
    (ran : ((Session.machine world).run uses ⟨server, disk⟩).2 = last) :
    (∀ entries, loadSnapshot format path disk = .ok entries →
      Session.FileHolds path (disk path)
        (fun key => (∃ e ∈ entries, e.1 = key) ∧
          Session.Keeps world ⟨server, disk⟩ uses key)
        (last.drop faults stamp)) ∧
    (∀ error, loadSnapshot format path disk = .error error →
      server.worker.env.source =
        (RpcSnapshotSource.new (config.fetchMode.getD .strict)).preload
          (mintedEntries (generate site.publicKey config.testAccountCount) config.testTrustlines
            server.worker.env.forkLedgerSequence) ∧
      (last.drop faults stamp path = disk path ∨
        ∃ saved, loadSnapshot format path (last.drop faults stamp) = .ok saved)) ∧
    (last.server.worker.env.source.entries ≠ [] → faults = .none →
      loadSnapshot format path (last.drop faults stamp) =
        .ok last.server.worker.env.source.entries) := by
  obtain ⟨samePath, source⟩ := Server.spawn_eq_ok spawned
  have cachePath := samePath.trans cacheFile
  have after (keys : LedgerKey → Prop)
      (held : ∀ key, keys key → (server.worker.env.source.held key).isSome)
      (kept : ∀ key, keys key → Session.Keeps world ⟨server, disk⟩ uses key) :
      last.Holds path (disk path) keys := by
    rw [← ran]
    exact Session.holds_run kept ⟨cachePath, held, .inl rfl⟩
  refine ⟨fun entries loaded => ?_, fun error failed => ⟨?_, ?_⟩, ?_⟩
  · refine Session.fileHolds_saveCache (after _ (fun key mem => ?_) fun key mem => mem.2) _ _
    exact isSome_held_spawn cacheFile spawned loaded mem.1
  · rw [source]
    simp only [ForkConfig.initialSource, cacheFile, failed, ite_self]
  · have holds := after (fun _ => False) (fun _ => False.elim) (fun _ => False.elim)
    rcases Session.fileHolds_saveCache holds faults stamp with same | ⟨saved, loaded, -⟩
    · exact .inl same
    · exact .inr ⟨saved, loaded⟩
  · rintro positive rfl
    have holds := after (fun _ => False) (fun _ => False.elim) (fun _ => False.elim)
    exact loadSnapshot_drop holds.cachePath positive

end

namespace Sample

/-- The configured cache file, and nothing else on disk. -/
def diskWith {format : SnapshotFormat} (contents : format.Contents) : Disk format :=
  Function.update (fun _ => none) ⟨"", "cache.json"⟩ (some contents)

/-- A snapshot of the slot of the contract and of account 2. -/
def slotAndAccount : LedgerSnapshot where
  protocolVersion := 25
  sequenceNumber := 90
  timestamp := 900
  networkId := bytes32 9
  baseReserve := 100
  minPersistentEntryTtl := 4096
  minTempEntryTtl := 16
  maxEntryTtl := 6312000
  ledgerEntries := [(ownSlot, ownSlotEntry, none), accountEntry 2 5]

/-- The fork built next to that snapshot. -/
def resumed : Server xdr := ⟨⟨forked (diskWith slotAndAccount), ∅, 0⟩, true⟩

/-- The slot is removed, and the fork is saved twice, the first time in vain. -/
def destroyAndSave : List (Use xdr snapshotFormat) :=
  [.saveCache ⟨some ("disk full", none), none⟩ stamp, .command destroy, .saveCache .none stamp]

/-- A file may be damaged; a damaged one does not load. -/
def damageableFormat : SnapshotFormat where
  Contents := LedgerSnapshot × Bool
  write snapshot := (snapshot, false)
  read contents := if contents.2 then .error "EOF while parsing a list" else .ok contents.1
  read_write _ := rfl

/-- The snapshot in a damaged file. -/
def damagedFile : Disk damageableFormat := @diskWith damageableFormat (slotAndAccount, true)

end Sample

open Sample in
theorem cache_file_survives_destroyAndSave :
    let path : Path := ⟨"", "cache.json"⟩
    let start : Session xdr snapshotFormat := ⟨resumed, diskWith slotAndAccount⟩
    let last := ((Session.machine removingWorld).run destroyAndSave start).2
    (∀ entries, loadSnapshot snapshotFormat path (diskWith slotAndAccount) = .ok entries →
      Session.FileHolds path (diskWith slotAndAccount path)
        (fun key => (∃ e ∈ entries, e.1 = key) ∧
          Session.Keeps removingWorld start destroyAndSave key)
        (last.drop .none stamp)) ∧
    (∀ error, loadSnapshot snapshotFormat path (diskWith slotAndAccount) = .error error →
      resumed.worker.env.source =
        (RpcSnapshotSource.new (config.fetchMode.getD .strict)).preload
          (mintedEntries (generate site.publicKey config.testAccountCount) config.testTrustlines
            resumed.worker.env.forkLedgerSequence) ∧
      (last.drop .none stamp path = diskWith slotAndAccount path ∨
        ∃ saved, loadSnapshot snapshotFormat path (last.drop .none stamp) = .ok saved)) ∧
    (last.server.worker.env.source.entries ≠ [] →
      (SaveFaults.none : SaveFaults snapshotFormat) = .none →
      loadSnapshot snapshotFormat path (last.drop .none stamp) =
        .ok last.server.worker.env.source.entries) :=
  cache_file_survives rfl rfl rfl

open Sample in
/-- A fork that is built next to a damaged file and dropped at once replaces the
file: the slot that was in it is gone. -/
theorem damaged_file_is_replaced :
    ∃ server : Server xdr,
      (∃ e ∈ slotAndAccount.ledgerEntries, e.1 = ownSlot) ∧
      Server.spawn damageableFormat site damagedFile config = .ok server ∧
      let last := ((Session.machine world).run [] ⟨server, damagedFile⟩).2
      last.drop .none stamp ⟨"", "cache.json"⟩ ≠ damagedFile ⟨"", "cache.json"⟩ ∧
      ∃ saved, loadSnapshot damageableFormat ⟨"", "cache.json"⟩ (last.drop .none stamp) =
        .ok saved ∧ ¬∃ e ∈ saved, e.1 = ownSlot := by
  refine ⟨_, ⟨_, .head _, rfl⟩, rfl, ?_, _, rfl, ?_⟩
  · intro same
    cases same
  · decide

end SorobanFork
