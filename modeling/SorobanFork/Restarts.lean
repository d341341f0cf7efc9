import SorobanFork.CacheFile

/-!
# Many runs over one cache file

A cache file outlives the forks that are built next to it.  A `Life` is one of
them, from its build to its end: a drop, whose save may fail, or a kill, after
which nothing is saved.  Each has an upstream, a site and a configuration of its
own, so the gateway may drift from one to the next.

`entry_survives`: an entry that is in the file and that no life mints, writes or
bumps is in the file after any number of lives, and every fork in between answers
it without asking upstream.
-/

namespace SorobanFork

open Lib

section

variable {X : Xdr} {world : World X} {format : SnapshotFormat}

/-- Executed in this state, the command may change what is cached at `key`: it
writes it, or it is a send from the account of that key. -/
def Server.Touches (world : World X) (server : Server X) (key : LedgerKey)
    (cmd : Command X) : Prop :=
  server.WritesKey world key cmd ∨
    ∃ envelopeBytes hostFunction sourceAccount,
      cmd = .sendTransaction envelopeBytes hostFunction sourceAccount ∧
        key = .account sourceAccount

/-- A command that does not touch a key leaves what is cached there. -/
theorem Server.cached_step_of_not_touches {server : Server X} {key : LedgerKey}
    {cmd : Command X} {value : Option EntryWithLiveUntil}
    (untouched : ¬server.Touches world key cmd)
    (held : server.worker.env.source.cached key = some value) :
    (server.step world cmd).2.worker.env.source.cached key = some value := by
  obtain ⟨notWritten, notSource⟩ := not_or.mp untouched
  rw [Server.step_worker]
  split
  case isFalse => exact held
  case isTrue alive =>
    by_cases readOnly : cmd.ReadOnly
    · exact (Worker.step_onlyReads world _ readOnly).1.extends_cached _ _ held
    cases cmd with
    | setLedgerEntry k entry liveUntil =>
        have other : key ≠ k := fun same => notWritten ⟨alive, same.symm⟩
        rw [Worker.step_setLedgerEntry]
        show (server.worker.env.source.setEntry k entry liveUntil).cached key = some value
        rw [RpcSnapshotSource.cached_setEntry, Function.update_of_ne other, held]
    | closeLedgers ledgers seconds => exact held
    | sendTransaction envelopeBytes hostFunction sourceAccount =>
        have other : key ≠ .account sourceAccount := fun same =>
          notSource ⟨envelopeBytes, hostFunction, sourceAccount, rfl, same⟩
        rcases sendTransaction_cases world envelopeBytes hostFunction sourceAccount
          ((world.systemTime server.worker.clockReads).getD 0) server.worker.env with
          ⟨panic, mid, -, reads, sent⟩ | ⟨invocation, mid, ran, reads, outcome⟩
        · rw [Worker.step_sendTransaction_of_error sent]
          exact reads.extends_cached _ _ held
        · rcases outcome with ⟨message, -, sent⟩ | ⟨result, succeeded, sent⟩
          · rw [Worker.step_sendTransaction_of_ok sent]
            exact reads.extends_cached _ _ held
          · rw [Worker.step_sendTransaction_of_ok sent]
            show ((mid.source.applyChanges
              invocation.changesToApply).2.bumpAccountSeq sourceAccount).2.cached key = some value
            rw [RpcSnapshotSource.cached_bumpAccountSeq, Function.update_of_ne other,
              RpcSnapshotSource.cached_applyChanges_of_not_mem, reads.extends_cached _ _ held]
            intro change mem readWrite same
            exact notWritten ⟨alive, invocation, result, congrArg Prod.fst ran, succeeded, change,
              mem, readWrite, same⟩
    | _ => exact absurd trivial readOnly

/-! ## The file and a fork next to it -/

/-- The file loads, and has just this entry under the key. -/
def FileShows (path : Path) (key : LedgerKey) (found : EntryWithLiveUntil) (disk : Disk format) :
    Prop :=
  ∃ entries, loadSnapshot format path disk = .ok entries ∧ (key, found) ∈ entries ∧
    ∀ found', (key, found') ∈ entries → found' = found

namespace Session

variable {path : Path} {key : LedgerKey} {found : EntryWithLiveUntil} {session : Session X format}

/-- The fork and its file both have the entry. -/
structure Shows (path : Path) (key : LedgerKey) (found : EntryWithLiveUntil)
    (session : Session X format) : Prop where
  cachePath : session.server.worker.env.cachePath = some path
  cached : session.server.worker.env.source.cached key = some (some found)
  file : FileShows path key found session.disk

/-- This use of the fork may change the entry at `key`. -/
def Touches (world : World X) (key : LedgerKey) (session : Session X format) :
    Use X format → Prop
  | .command cmd => session.server.Touches world key cmd
  | .saveCache _ _ => False

/-- A save, whether it succeeds or not, leaves the entry in the file. -/
theorem fileShows_saveCache (shows_ : session.Shows path key found) (faults : SaveFaults format)
    (stamp : SaveStamp) :
    FileShows path key found
      (session.server.worker.env.saveCache format faults stamp session.disk).2 := by
  have saves := session.server.worker.env.saveCache_cases faults stamp session.disk
    shows_.cachePath
  rcases saves with same | saved
  · obtain ⟨entries, loaded, only⟩ := shows_.file
    refine ⟨entries, ?_, only⟩
    rw [← loaded, loadSnapshot, loadSnapshot, same]
  · refine ⟨_, saved, RpcSnapshotSource.mem_entries.mpr shows_.cached, fun found' mem => ?_⟩
    have held := RpcSnapshotSource.mem_entries.mp mem
    rw [shows_.cached] at held
    cases held
    rfl

theorem shows_step {use : Use X format} (untouched : ¬session.Touches world key use)
    (shows_ : session.Shows path key found) : (session.step world use).2.Shows path key found := by
  cases use with
  | saveCache faults stamp =>
      exact ⟨shows_.cachePath, shows_.cached, fileShows_saveCache shows_ faults stamp⟩
  | command cmd =>
      refine ⟨?_, Server.cached_step_of_not_touches untouched shows_.cached, shows_.file⟩
      have same : (session.server.step world cmd).2.worker.env.cachePath =
          session.server.worker.env.cachePath := cachePath_run [cmd]
      exact same.trans shows_.cachePath

theorem shows_run {uses : List (Use X format)}
    (untouched : (machine world).AllSteps (fun session use => ¬session.Touches world key use) uses
      session)
    (shows_ : session.Shows path key found) :
    ((machine world).run uses session).2.Shows path key found :=
  (machine world).run_invariant_of _ _ (fun _ _ => shows_step) untouched shows_

/-- A fork built next to a file has the entries of the file that it does not mint. -/
theorem shows_spawn {site : Site} {config : ForkConfig} {disk : Disk format} {server : Server X}
    (cacheFile : config.cachePath = some path)
    (spawned : Server.spawn format site disk config = .ok server)
    (notMinted : ¬config.Mints site key) (file : FileShows path key found disk) :
    (⟨server, disk⟩ : Session X format).Shows path key found := by
  refine ⟨(Server.spawn_eq_ok spawned).1.trans cacheFile, ?_, file⟩
  obtain ⟨entries, loaded, mem, only⟩ := file
  unfold Server.spawn at spawned
  rcases built : config.build format site disk with e | env
  · rw [built] at spawned
    cases spawned
  · rw [built] at spawned
    cases spawned
    show env.source.cached key = some (some found)
    rw [cached_build_of_not_mints built notMinted,
      ForkConfig.initialSource_of_load cacheFile loaded]
    exact RpcSnapshotSource.cached_preload_of_mem mem only

end Session

/-! ## Lives -/

/-- One fork next to the file, from its build to its end. -/
structure Life (X : Xdr) (format : SnapshotFormat) : Type 1 where
  world : World X
  site : Site
  config : ForkConfig
  uses : List (Use X format)
  /-- The save of the drop; none if the process was killed. -/
  ending : Option (SaveFaults format × SaveStamp)

namespace Life

/-- What a life leaves on disk; one whose build fails leaves all as it was. -/
def run (life : Life X format) (disk : Disk format) : Disk format :=
  match Server.spawn format life.site disk life.config with
  | .error _ => disk
  | .ok server =>
    let last := ((Session.machine life.world).run life.uses ⟨server, disk⟩).2
    match life.ending with
    | none => last.disk
    | some (faults, stamp) => last.drop faults stamp

/-- Lives, one after another. -/
def machine (X : Xdr) (format : SnapshotFormat) :
    Machine (Life X format) (fun _ => Unit) (Disk format) :=
  ⟨fun life disk => ((), life.run disk)⟩

/-- The life does not mint the key, and none of its commands touches it. -/
def Spares (key : LedgerKey) (disk : Disk format) (life : Life X format) : Prop :=
  ¬life.config.Mints life.site key ∧
    ∀ server, Server.spawn format life.site disk life.config = .ok server →
      (Session.machine life.world).AllSteps
        (fun session use => ¬session.Touches life.world key use) life.uses ⟨server, disk⟩

variable {path : Path} {key : LedgerKey} {found : EntryWithLiveUntil} {disk : Disk format}

theorem fileShows_run {life : Life X format} (cacheFile : life.config.cachePath = some path)
    (spares : life.Spares key disk) (file : FileShows path key found disk) :
    FileShows path key found (life.run disk) := by
  unfold run
  rcases spawned : Server.spawn format life.site disk life.config with e | server
  · exact file
  · have start := Session.shows_spawn cacheFile spawned spares.1 file
    have last := Session.shows_run (spares.2 server spawned) start
    rcases life.ending with _ | ⟨faults, stamp⟩
    · exact last.file
    · exact Session.fileShows_saveCache last faults stamp

end Life

/-- **An entry in the file is pinned.**  However many forks are built next to the
file and used, dropped or killed, whether or not their saves succeed, and whatever
their gateways say: an entry that none of them mints or touches stays in the file,
and each fork answers it at every moment without asking upstream. -/
theorem entry_survives {path : Path} {key : LedgerKey} {found : EntryWithLiveUntil}
    {disk : Disk format} {lives : List (Life X format)} (file : FileShows path key found disk)
    (sameFile : ∀ life ∈ lives, life.config.cachePath = some path)
    (spared : (Life.machine X format).AllSteps (fun disk life => life.Spares key disk) lives disk) :
    FileShows path key found ((Life.machine X format).run lives disk).2 ∧
    ∀ before life after, lives = before ++ life :: after →
      ∀ server,
        Server.spawn format life.site ((Life.machine X format).run before disk).2 life.config =
          .ok server →
        ∀ uses later, life.uses = uses ++ later →
          ∀ last, ((Session.machine life.world).run uses
              ⟨server, ((Life.machine X format).run before disk).2⟩).2 = last →
            ∀ client, last.server.worker.env.source.get client key =
              (.ok (some found), last.server.worker.env.source) := by
  have kept {lives : List (Life X format)} {disk : Disk format}
      (sameFile : ∀ life ∈ lives, life.config.cachePath = some path)
      (spared : (Life.machine X format).AllSteps (fun disk life => life.Spares key disk) lives disk)
      (file : FileShows path key found disk) :
      FileShows path key found ((Life.machine X format).run lives disk).2 := by
    induction lives generalizing disk with
    | nil => exact file
    | cons life lives ih =>
        exact ih (fun other mem => sameFile other (.tail _ mem)) spared.2
          (Life.fileShows_run (sameFile life (.head _)) spared.1 file)
  refine ⟨kept sameFile spared file, ?_⟩
  rintro before life after rfl server spawned uses later split last rfl client
  obtain ⟨past, here, -⟩ := (Life.machine X format).allSteps_append.mp spared
  have fileNow := kept (fun other mem => sameFile other (List.mem_append_left _ mem)) past file
  have start := Session.shows_spawn (sameFile life (by simp)) spawned here.1 fileNow
  have steps := here.2 server spawned
  rw [split] at steps
  have now := Session.shows_run ((Session.machine life.world).allSteps_append.mp steps).1 start
  exact RpcSnapshotSource.get_of_cached now.cached

end

namespace Sample

/-- The first fork reads the slot, fails to save and is killed; the second moves the
clock and is dropped. -/
def twoLives : List (Life xdr snapshotFormat) :=
  [⟨removingWorld, site, config,
      [.command (.getLedgerEntries [ownSlot]), .saveCache ⟨some ("disk full", none), none⟩ stamp],
      none⟩,
    ⟨world, site, config, [.command (.closeLedgers 3 15)], some (.none, stamp)⟩]

end Sample

open Sample in
theorem entry_survives_twoLives :
    FileShows ⟨"", "cache.json"⟩ (accountEntry 2 5).1 (accountEntry 2 5).2
      ((Life.machine xdr snapshotFormat).run twoLives (diskWith slotAndAccount)).2 := by
  have file : @FileShows snapshotFormat ⟨"", "cache.json"⟩ (accountEntry 2 5).1
      (accountEntry 2 5).2 (diskWith slotAndAccount) :=
    ⟨slotAndAccount.ledgerEntries, rfl, .tail _ (.head _), by
      intro found' mem
      rcases List.mem_cons.mp mem with same | mem
      · cases same
      · exact (Prod.mk.inj (List.mem_singleton.mp mem)).2⟩
  have sameFile : ∀ life ∈ twoLives, life.config.cachePath = some ⟨"", "cache.json"⟩ := by
    simp [twoLives, config]
  refine (entry_survives file sameFile
    ⟨⟨by decide, ?_⟩, ⟨by decide, ?_⟩, trivial⟩).1
  · intro server _
    refine ⟨?_, id, trivial⟩
    rintro (touches | ⟨_, _, _, same, -⟩)
    · exact touches
    · cases same
  · intro server _
    refine ⟨?_, trivial⟩
    rintro (touches | ⟨_, _, _, same, -⟩)
    · exact touches
    · cases same

end SorobanFork
