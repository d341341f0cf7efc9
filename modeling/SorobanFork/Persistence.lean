import Mathlib.Data.Finset.Card
import SorobanFork.Config
import SorobanFork.Sample
import SorobanFork.Server.Effects

/-!
# What a restart keeps

A fork that is dropped leaves its positive entries in the cache file; a fork
built from the file starts with them.  Keys known to be absent are not in the
file, whether upstream did not have them or the run removed them, so the next
fork asks upstream for them again.

`cached_restart` is the rule: what the new source holds for a key, in terms of
what the old one held.  `written_key_after_restart` applies it to the keys a
run of the server wrote, `second_run` to the keys it read.
-/

namespace SorobanFork

open Lib

variable {X : Xdr} {format : SnapshotFormat}

namespace RpcSnapshotSource

variable {s : RpcSnapshotSource X} {k : LedgerKey}

/-- The exported entries are those cached as present. -/
theorem mem_entries {found : EntryWithLiveUntil} :
    (k, found) ∈ s.entries ↔ s.cached k = some (some found) := by
  rw [entries, List.mem_filterMap, cached]
  constructor
  · rintro ⟨⟨key, value⟩, mem, exported⟩
    obtain ⟨bytes, rfl, same⟩ := Option.map_eq_some_iff.mp exported
    obtain ⟨rfl, rfl⟩ := Prod.mk.inj same
    have held : s.cache.lookup key = some (some bytes) := AList.mem_lookup_iff.mpr mem
    rw [held, Option.map_some, Option.map_some]
  · intro held
    obtain ⟨value, looked, decoded⟩ := Option.map_eq_some_iff.mp held
    obtain ⟨bytes, rfl, rfl⟩ := Option.map_eq_some_iff.mp decoded
    exact ⟨⟨k, some bytes⟩, AList.mem_lookup_iff.mp looked, rfl⟩

@[simp] theorem fetches_preload (entries : List (LedgerKey × LedgerEntry × Option UInt32)) :
    (s.preload entries).fetches = s.fetches := rfl

/-- A source pre-loaded with the exported entries of another holds what the
other holds as present, and nothing else. -/
theorem cached_preload_entries {old : RpcSnapshotSource X} (empty : s.cached k = none) :
    (s.preload old.entries).cached k = (old.cached k).join.map some := by
  have missing (notPresent : ∀ found, old.cached k ≠ some (some found)) :
      (s.preload old.entries).cached k = none := by
    rw [cached_preload_of_not_mem, empty]
    rintro ⟨key, found⟩ mem rfl
    exact notPresent found (mem_entries.mp mem)
  rcases held : old.cached k with _ | _ | found
  · exact missing fun found present => by simp [held] at present
  · exact missing fun found present => by simp [held] at present
  · refine cached_preload_of_mem (mem_entries.mpr held) fun found' mem => ?_
    simpa [held] using (mem_entries.mp mem).symm

end RpcSnapshotSource

/-! ## Dropping a fork and building the next -/

section Restart

variable {site : Site} {config : ForkConfig} {path : Path} {stamp : SaveStamp}
  {disk : Disk format} {last env : ForkedEnv X} {key : LedgerKey}

/-- The file a drop leaves loads as the positive entries of the fork. -/
theorem loadSnapshot_drop (cachePath : last.cachePath = some path)
    (positive : last.source.entries ≠ []) :
    loadSnapshot format path (last.drop format .none stamp disk) = .ok last.source.entries := by
  have save : last.saveCache format .none stamp disk =
      saveSnapshot format .none stamp path last.source.entries last.forkLedgerSequence
        last.forkTimestamp last.networkId last.protocolVersion disk := by
    unfold ForkedEnv.saveCache ForkedEnv.doSaveCache
    rw [cachePath]
    exact if_neg (by simpa using positive)
  rw [ForkedEnv.drop, save]
  exact saveSnapshot_ok (Prod.ext saveSnapshot_none rfl)

/-- A build starts from the entries of a file that loads. -/
theorem ForkConfig.initialSource_of_load
    {entries : List (LedgerKey × LedgerEntry × Option UInt32)}
    (samePath : config.cachePath = some path)
    (loaded : loadSnapshot format path disk = .ok entries) :
    (config.initialSource format disk : RpcSnapshotSource X) =
      (RpcSnapshotSource.new (config.fetchMode.getD .strict)).preload entries := by
  have present : (disk path).isSome := by
    cases file : disk path with
    | none =>
        unfold loadSnapshot at loaded
        rw [file] at loaded
        cases loaded
    | some contents => rfl
  simp only [ForkConfig.initialSource, samePath, present, if_true, loaded]

/-- Apart from the keys a build mints, a fork holds what it started from. -/
theorem cached_build_of_not_mints (built : config.build format site disk = .ok env)
    (notMinted : ¬config.Mints site key) :
    env.source.cached key =
      (config.initialSource format disk : RpcSnapshotSource X).cached key := by
  obtain ⟨-, source, accounts⟩ := ForkConfig.build_eq_ok built
  rw [source]
  apply RpcSnapshotSource.cached_preload_of_not_mem
  rintro minted mem rfl
  obtain ⟨a, memAccount, same⟩ := mem_mintedEntries mem
  rw [accounts] at memAccount
  exact notMinted ⟨a, memAccount, same⟩

/-- **The restart rule.**  Apart from the keys it mints itself, a fork built
from the file holds exactly what the last one held as present. -/
theorem cached_restart (cachePath : last.cachePath = some path)
    (positive : last.source.entries ≠ []) (samePath : config.cachePath = some path)
    (rebuilt : config.build format site (last.drop format .none stamp disk) = .ok env)
    (notMinted : ¬config.Mints site key) :
    env.source.cached key = (last.source.cached key).join.map some := by
  rw [cached_build_of_not_mints rebuilt notMinted,
    ForkConfig.initialSource_of_load samePath (loadSnapshot_drop cachePath positive)]
  exact RpcSnapshotSource.cached_preload_entries rfl

theorem fetches_build (built : config.build format site disk = .ok env) :
    env.source.fetches = 0 := by
  obtain ⟨-, source, -⟩ := ForkConfig.build_eq_ok built
  rw [source, RpcSnapshotSource.fetches_preload, ForkConfig.initialSource]
  cases config.cachePath with
  | none => rfl
  | some path =>
      dsimp only
      split
      · cases loadSnapshot format path disk <;> rfl
      · rfl

end Restart

/-! ## Keys a run wrote -/

/-- Spawn a server on a fork built from a configuration. -/
def Server.spawn (format : SnapshotFormat) (site : Site) (disk : Disk format)
    (config : ForkConfig) : Except ForkError (Server X) :=
  (config.build format site disk).map fun env => ⟨⟨env, ∅, 0⟩, true⟩

/-- Executed in this state, the command writes or removes the entry at `key`:
it sets it, or it is a send that succeeds with a read-write change to it. -/
def Server.WritesKey (world : World X) (server : Server X) (key : LedgerKey) :
    Command X → Prop
  | .setLedgerEntry key' _ _ => server.alive = true ∧ key' = key
  | .sendTransaction _ hostFunction sourceAccount =>
    server.alive = true ∧
      ∃ invocation value, (server.worker.env.read world (world.invoke server.worker.env.ledger
          hostFunction sourceAccount)).1 = .ok invocation ∧
        invocation.txResult = .ok value ∧
        ∃ change ∈ invocation.changesToApply, change.readOnly = false ∧ change.key = key
  | _ => False

section Written

variable {world : World X} {server : Server X} {key : LedgerKey}

/-- A key that a command writes is in the cache afterwards. -/
theorem Server.isSome_cached_of_writesKey {cmd : Command X}
    (writes : server.WritesKey world key cmd) :
    ((server.step world cmd).2.worker.env.source.cached key).isSome := by
  cases cmd with
  | setLedgerEntry k entry liveUntil =>
      obtain ⟨alive, rfl⟩ := writes
      rw [Server.step_worker, alive, if_pos rfl, Worker.step_setLedgerEntry]
      show ((server.worker.env.source.setEntry k entry liveUntil).cached k).isSome
      rw [RpcSnapshotSource.cached_setEntry, Function.update_self]
      rfl
  | sendTransaction envelopeBytes hostFunction sourceAccount =>
      obtain ⟨alive, invocation, value, ran, succeeded, change, mem, readWrite, rfl⟩ := writes
      rw [Server.step_worker, alive, if_pos rfl]
      rcases sendTransaction_cases world envelopeBytes hostFunction sourceAccount
        ((world.systemTime server.worker.clockReads).getD 0) server.worker.env with
        ⟨panic, mid, read, -, -⟩ | ⟨invocation', mid, read, -, outcome⟩
      · rw [read] at ran
        cases ran
      · rw [read] at ran
        cases ran
        rcases outcome with ⟨message, failed, -⟩ | ⟨value', -, sent⟩
        · rw [succeeded] at failed
          cases failed
        · rw [Worker.step_sendTransaction_of_ok sent]
          exact RpcSnapshotSource.isSome_cached_bumpAccountSeq
            (RpcSnapshotSource.isSome_cached_applyChanges_of_mem mem readWrite)
  | _ => exact writes.elim

/-- A key that a command does not write stays as it is cached, unless it is an
account's, which a send may bump. -/
theorem Server.cached_step_of_not_writesKey {cmd : Command X} {value : Option EntryWithLiveUntil}
    (notWritten : ¬server.WritesKey world key cmd) (notAccount : ∀ id, key ≠ .account id)
    (held : server.worker.env.source.cached key = some value) :
    (server.step world cmd).2.worker.env.source.cached key = some value := by
  rw [Server.step_worker]
  split
  · rename_i alive
    by_cases readOnly : cmd.ReadOnly
    · exact (Worker.step_onlyReads world _ readOnly).1.extends_cached _ _ held
    · cases cmd with
      | setLedgerEntry k entry liveUntil =>
          have other : key ≠ k := fun same => notWritten ⟨alive, same.symm⟩
          rw [Worker.step_setLedgerEntry]
          show (server.worker.env.source.setEntry k entry liveUntil).cached key = some value
          rw [RpcSnapshotSource.cached_setEntry, Function.update_of_ne other, held]
      | closeLedgers ledgers seconds => exact held
      | sendTransaction envelopeBytes hostFunction sourceAccount =>
          rcases sendTransaction_cases world envelopeBytes hostFunction sourceAccount
            ((world.systemTime server.worker.clockReads).getD 0) server.worker.env with
            ⟨panic, mid, -, reads, sent⟩ | ⟨invocation, mid, ran, reads, outcome⟩
          · rw [Worker.step_sendTransaction_of_error sent]
            exact reads.extends_cached _ _ held
          · rcases outcome with ⟨message, -, sent⟩ | ⟨result, succeeded, sent⟩
            · rw [Worker.step_sendTransaction_of_ok sent]
              exact reads.extends_cached _ _ held
            · rw [Worker.step_sendTransaction_of_ok sent]
              show ((mid.source.applyChanges
                invocation.changesToApply).2.bumpAccountSeq sourceAccount).2.cached key = some value
              rw [RpcSnapshotSource.cached_bumpAccountSeq,
                Function.update_of_ne (notAccount sourceAccount),
                RpcSnapshotSource.cached_applyChanges_of_not_mem, reads.extends_cached _ _ held]
              intro change mem readWrite same
              exact notWritten ⟨alive, invocation, result, congrArg Prod.fst ran, succeeded, change,
                mem, readWrite, same⟩
      | _ => exact absurd trivial readOnly
  · exact held

/-- A key that a command of a run wrote is in the cache from then on. -/
theorem isSome_cached_of_written {cmds : List (Command X)}
    (written : ∃ before cmd after, cmds = before ++ cmd :: after ∧
      ((Server.machine world).run before server).2.WritesKey world key cmd) :
    (((Server.machine world).run cmds server).2.worker.env.source.cached key).isSome := by
  obtain ⟨before, cmd, after, rfl, writes⟩ := written
  rw [Machine.run_append, Machine.run_cons]
  refine (Server.machine world).run_invariant
    (fun server => (server.worker.env.source.cached key).isSome) ?_ after
    (Server.isSome_cached_of_writesKey writes)
  intro cmd server held
  show ((server.step world cmd).2.worker.env.source.cached key).isSome
  rw [Server.step_worker]
  split
  · exact Worker.isSome_cached_step world cmd held
  · exact held

/-- The cache file of a server stays the configured one. -/
theorem cachePath_run (cmds : List (Command X)) :
    ((Server.machine world).run cmds server).2.worker.env.cachePath =
      server.worker.env.cachePath := by
  refine (Server.machine world).run_rel
    (fun server server' => server'.worker.env.cachePath = server.worker.env.cachePath)
    (fun _ => rfl) (fun _ _ _ first second => second.trans first) ?_ cmds server
  intro cmd server
  show (server.step world cmd).2.worker.env.cachePath = _
  rw [Server.step_worker]
  split
  · rw [Worker.step_frame]
  · rfl

end Written

/-- **Written keys after a restart.**  A key that a run wrote is answered from
the cache until the drop.  A fork built from the file answers it the same way
if it was present then, whatever upstream holds; if it was removed, the new fork
asks upstream. -/
theorem written_key_after_restart {world : World X} {site site' : Site}
    {config config' : ForkConfig} {path : Path} {stamp : SaveStamp} {disk disk' : Disk format}
    {server : Server X} {cmds : List (Command X)} {last env : ForkedEnv X} {key : LedgerKey}
    (cacheFile : config.cachePath = some path)
    (spawned : Server.spawn format site disk config = .ok server)
    (ran : ((Server.machine world).run cmds server).2.worker.env = last)
    (written : ∃ before cmd after, cmds = before ++ cmd :: after ∧
      ((Server.machine world).run before server).2.WritesKey world key cmd)
    (positive : last.source.entries ≠ []) (sameFile : config'.cachePath = some path)
    (rebuilt : config'.build format site' (last.drop format .none stamp disk') = .ok env)
    (notMinted : ¬config'.Mints site' key) :
    ∃ value, (∀ client, last.source.get client key = (.ok value, last.source)) ∧
      ∀ later : RpcSnapshotSource X, later.cached key = env.source.cached key →
        ∀ client, later.get client key =
          match value with
          | some found => (.ok (some found), later)
          | none => later.fetchFromRpc client key := by
  have held := isSome_cached_of_written written
  rw [ran] at held
  obtain ⟨value, cached⟩ := Option.isSome_iff_exists.mp held
  have cachePath : last.cachePath = some path := by
    unfold Server.spawn at spawned
    rcases built : config.build format site disk with e | start
    · rw [built] at spawned
      cases spawned
    · rw [built] at spawned
      cases spawned
      rw [← ran, cachePath_run, (ForkConfig.build_eq_ok built).1, cacheFile]
  have restarted := cached_restart cachePath positive sameFile rebuilt notMinted
  rw [cached] at restarted
  refine ⟨value, fun client => RpcSnapshotSource.get_of_cached cached,
    fun later untouched client => ?_⟩
  rw [restarted] at untouched
  cases value with
  | none => exact RpcSnapshotSource.get_of_not_cached untouched
  | some found => exact RpcSnapshotSource.get_of_cached untouched

namespace Sample

/-- The contents of a file are the snapshot itself. -/
def snapshotFormat : SnapshotFormat := ⟨LedgerSnapshot, id, .ok, fun _ => rfl⟩

def site : Site where
  newClient := .ok ()
  latestLedger := .ok ⟨100, 25, 1000⟩
  network := .ok ⟨"Standalone Network", bytes32 9⟩
  hostMax := 25
  setDiagnosticLevel _ := .ok ()
  publicKey i := bytes32 (UInt8.ofNat i)

def stamp : SaveStamp := ⟨1, 1⟩

/-- A fork with a cache file and one test account. -/
def config : ForkConfig where
  cachePath := some ⟨"", "cache.json"⟩
  networkId := none
  fetchMode := none
  pinnedLedger := none
  pinnedTimestamp := none
  maxProtocolVersion := none
  tracing := false
  testAccountCount := 1
  testTrustlines := []

/-- The fork that `config` builds next to the given file. -/
def forked (disk : Disk snapshotFormat) : ForkedEnv xdr where
  ledger := { ledgerInfo with timestamp := 4600 }
  source := ((config.initialSource snapshotFormat disk).preload
    (mintedEntries (generate site.publicKey 1) [] 100))
  cachePath := config.cachePath
  forkLedgerSequence := 100
  forkTimestamp := 4600
  networkId := bytes32 9
  protocolVersion := 25
  passphrase := some "Standalone Network"
  feeCell := none
  testAccounts := generate site.publicKey 1

theorem build_forked (disk : Disk snapshotFormat) :
    config.build snapshotFormat site disk = .ok (forked disk) := rfl

/-- A server on a fork without a cache file yet. -/
def started : Server xdr := ⟨⟨forked fun _ => none, ∅, 0⟩, true⟩

/-- The slot of the contract itself. -/
def ownSlot : LedgerKey := slotKey (.contract (bytes32 1)) (.contract (bytes32 1))

def ownSlotEntry : LedgerEntry :=
  slotEntry (.contract (bytes32 1)) (.contract (bytes32 1)) .void

/-- A world whose upstream has the slot, and whose host removes it in every call. -/
def removingWorld : World xdr :=
  { world with
    client := fun _ key => .ok (if key = ownSlot then some ⟨ownSlotEntry, none⟩ else none)
    invoke := fun _ _ _ => .ret (outcome (.ok .void)
      [⟨false, xdr.ledgerKey.encode ownSlot, none, none⟩]) }

/-- A call that the host answers by removing the slot. -/
def destroy : Command xdr := .sendTransaction (.raw []) (call "destroy" []) (account 1)

/-- The fork after the removal, and the file it leaves. -/
def afterRemoval : ForkedEnv xdr :=
  ((Server.machine removingWorld).run [destroy] started).2.worker.env

def fileAfterRemoval : Disk snapshotFormat :=
  afterRemoval.drop snapshotFormat .none stamp fun _ => none

/-- A slot that is set, and not removed again. -/
def keptSlot : LedgerKey := slotKey (.contract (bytes32 2)) (.contract (bytes32 2))

def keptSlotEntry : LedgerEntry :=
  slotEntry (.contract (bytes32 2)) (.contract (bytes32 2)) (.u32 7)

/-- One slot is removed, and the other is set. -/
def destroyAndSet : List (Command xdr) :=
  [destroy, .setLedgerEntry keptSlot keptSlotEntry (some 900)]

def afterWrites : ForkedEnv xdr :=
  ((Server.machine removingWorld).run destroyAndSet started).2.worker.env

def fileAfterWrites : Disk snapshotFormat :=
  afterWrites.drop snapshotFormat .none stamp fun _ => none

end Sample

open Sample in
/-- Of the two keys written, the next fork asks upstream for the one that was removed, and
answers the other one as it was set. -/
theorem written_key_after_restart_destroyAndSet :
    ((∀ client, afterWrites.source.get client ownSlot = (.ok none, afterWrites.source)) ∧
      ∀ later : RpcSnapshotSource xdr,
        later.cached ownSlot = (forked fileAfterWrites).source.cached ownSlot →
        ∀ client, later.get client ownSlot = later.fetchFromRpc client ownSlot) ∧
    (∀ client, afterWrites.source.get client keptSlot =
        (.ok (some (keptSlotEntry, some 900)), afterWrites.source)) ∧
      ∀ later : RpcSnapshotSource xdr,
        later.cached keptSlot = (forked fileAfterWrites).source.cached keptSlot →
        ∀ client, later.get client keptSlot = (.ok (some (keptSlotEntry, some 900)), later) := by
  have spawns : Server.spawn snapshotFormat site (fun _ => none) config = .ok started := rfl
  have positive : afterWrites.source.entries ≠ [] := by decide
  constructor
  · have written : ∃ before cmd after, destroyAndSet = before ++ cmd :: after ∧
        ((Server.machine removingWorld).run before started).2.WritesKey removingWorld ownSlot cmd :=
      ⟨[], destroy, _, rfl, rfl, _, .void, rfl, rfl, _, .head _, rfl, rfl⟩
    obtain ⟨value, before, after⟩ := written_key_after_restart rfl spawns
      (rfl : _ = afterWrites) written positive rfl (build_forked fileAfterWrites) (by decide)
    have removed : afterWrites.source.cached ownSlot = some none := by decide
    have same := before world.client
    rw [RpcSnapshotSource.get_of_cached removed] at same
    cases same
    exact ⟨before, after⟩
  · have written : ∃ before cmd after, destroyAndSet = before ++ cmd :: after ∧
        ((Server.machine removingWorld).run before started).2.WritesKey removingWorld keptSlot
          cmd :=
      ⟨[destroy], _, [], rfl, rfl, rfl⟩
    obtain ⟨value, before, after⟩ := written_key_after_restart rfl spawns
      (rfl : _ = afterWrites) written positive rfl (build_forked fileAfterWrites) (by decide)
    have kept : afterWrites.source.cached keptSlot = some (some (keptSlotEntry, some 900)) := by
      decide
    have same := before world.client
    rw [RpcSnapshotSource.get_of_cached kept] at same
    cases same
    exact ⟨before, after⟩

open Sample in
/-- A removed entry that upstream has is back after a restart: before the drop
the fork answers that it is absent, the next fork answers the upstream entry. -/
theorem removed_entry_returns :
    Server.spawn snapshotFormat site (fun _ => none) config = .ok started ∧
      started.WritesKey removingWorld ownSlot destroy ∧
      afterRemoval.source.entries ≠ [] ∧
      ¬config.Mints site ownSlot ∧
      config.build snapshotFormat site fileAfterRemoval = .ok (forked fileAfterRemoval) ∧
      (afterRemoval.source.get removingWorld.client ownSlot).1 = .ok none ∧
      ((forked fileAfterRemoval).source.get removingWorld.client ownSlot).1 =
        .ok (some (ownSlotEntry, none)) :=
  ⟨rfl, ⟨rfl, _, .void, rfl, rfl, _, .head _, rfl, rfl⟩, by decide, by decide, rfl, by decide,
    by decide⟩

end SorobanFork
