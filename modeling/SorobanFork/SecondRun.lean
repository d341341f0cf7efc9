import Mathlib.Data.Finset.Card
import Mathlib.Data.Finset.Dedup
import SorobanFork.Persistence

/-!
# The second run over a cache file

A fork reads each key upstream at most once: `readKeys_spec` counts the fetches
of a list of reads and says what they leave in the cache.  With the restart
rule, `second_run` gives the exact number of fetches of a second run over the
same keys: one for each key that was absent in the first.
-/

namespace SorobanFork

open Lib

/-- Read a list of keys, in order. -/
def readKeys : List LedgerKey → Reader (List (Option EntryWithLiveUntil))
  | [] => .ret []
  | key :: keys => .ask key fun found => (readKeys keys).bind fun rest => .ret (found :: rest)

/-- The client never fails. -/
def RpcClient.NoErrors (client : RpcClient) : Prop :=
  ∀ n key, ∃ answer, client n key = .ok answer

variable {X : Xdr} {client : RpcClient}

/-- What reading `keys` from `s` leaves in `s'`. -/
structure ReadKeys (client : RpcClient) (keys : List LedgerKey) (s s' : RpcSnapshotSource X) :
    Prop where
  /-- Every read is answered by what the cache holds for the key in the end. -/
  answered : s.read client (readKeys keys) =
    (.ok (keys.map fun key => (s'.cached key).join), s')
  known : ∀ key ∈ keys, (s'.cached key).isSome
  extends_cached : Extends s.cached s'.cached
  /-- What was not cached is what upstream answered. -/
  fetched : ∀ key ∈ keys, s.cached key = none →
    ∃ n answer, client n key = .ok answer ∧
      s'.cached key = some (answer.map (·.withLiveUntil))
  fetches : s'.fetches = s.fetches + (keys.toFinset.filter fun key => s.cached key = none).card

theorem RpcSnapshotSource.fetchFromRpc_of_ok {s : RpcSnapshotSource X} {key : LedgerKey}
    {answer : Option FetchedEntry} (answered : client s.fetches key = .ok answer) :
    ∃ s', s.fetchFromRpc client key = (.ok (answer.map (·.withLiveUntil)), s') ∧
      s'.fetches = s.fetches + 1 := by
  unfold RpcSnapshotSource.fetchFromRpc
  rw [answered]
  cases answer with
  | none => exact ⟨_, rfl, rfl⟩
  | some fetched => exact ⟨_, rfl, rfl⟩

/-- Counting a key that is fetched first: it is new, and not fetched again. -/
theorem card_filter_cons_of_miss {keys : List LedgerKey} {key : LedgerKey}
    {m : LedgerKey → Option (Option EntryWithLiveUntil)} (miss : m key = none)
    (value : Option EntryWithLiveUntil) :
    ((key :: keys).toFinset.filter fun k => m k = none).card =
      (keys.toFinset.filter fun k => Function.update m key (some value) k = none).card + 1 := by
  have rest : (keys.toFinset.filter fun k => Function.update m key (some value) k = none) =
      ((key :: keys).toFinset.filter fun k => m k = none).erase key := by
    ext k
    by_cases same : k = key
    · simp [same]
    · simp [same]
  rw [rest]
  exact (Finset.card_erase_add_one (by simp [miss])).symm

theorem card_filter_cons_of_hit {keys : List LedgerKey} {key : LedgerKey}
    {m : LedgerKey → Option (Option EntryWithLiveUntil)} (hit : m key ≠ none) :
    ((key :: keys).toFinset.filter fun k => m k = none) =
      keys.toFinset.filter fun k => m k = none := by
  rw [List.toFinset_cons, Finset.filter_insert, if_neg hit]

/-- **Reading a list of keys.**  Over a client that never fails, each key not yet
cached is fetched once. -/
theorem readKeys_spec (noErrors : client.NoErrors) (keys : List LedgerKey)
    (s : RpcSnapshotSource X) : ∃ s', ReadKeys client keys s s' := by
  induction keys generalizing s with
  | nil => exact ⟨s, rfl, by simp, .refl _, by simp, by simp⟩
  | cons key keys ih =>
      -- the first read leaves `s₁`, where `key` is cached
      obtain ⟨value, s₁, got, fetches, learnt⟩ : ∃ value s₁, s.get client key = (.ok value, s₁) ∧
          s₁.fetches + (keys.toFinset.filter fun k => s₁.cached k = none).card =
            s.fetches + ((key :: keys).toFinset.filter fun k => s.cached k = none).card ∧
          (s.cached key = none → ∃ n answer, client n key = .ok answer ∧
            value = answer.map (·.withLiveUntil)) := by
        rcases hit : s.cached key with _ | value
        · obtain ⟨answer, answered⟩ := noErrors s.fetches key
          obtain ⟨s₁, fetched, count⟩ := RpcSnapshotSource.fetchFromRpc_of_ok answered
          have got := (RpcSnapshotSource.get_of_not_cached hit).trans fetched
          refine ⟨_, s₁, got, ?_, fun _ => ⟨_, answer, answered, rfl⟩⟩
          rw [RpcSnapshotSource.cached_get_of_ok got, count,
            card_filter_cons_of_miss hit (answer.map (·.withLiveUntil))]
          omega
        · refine ⟨value, s, RpcSnapshotSource.get_of_cached hit, ?_, fun miss => ?_⟩
          · rw [card_filter_cons_of_hit (by simp [hit])]
          · cases miss
      have cached : s₁.cached key = some value := by
        rw [RpcSnapshotSource.cached_get_of_ok got, Function.update_self]
      obtain ⟨s', rest⟩ := ih s₁
      have kept : s'.cached key = some value := rest.extends_cached _ _ cached
      have grows : Extends s.cached s₁.cached := by
        have grows : Extends s.cached (s.get client key).2.cached := RpcSnapshotSource.extends_get
        rwa [got] at grows
      refine ⟨s', ?_, ?_, grows.trans rest.extends_cached, ?_, ?_⟩
      · have answered := rest.answered
        rw [RpcSnapshotSource.read] at answered ⊢
        rw [readKeys, Prog.run_ask_ok got, Prog.run_bind_ok answered, Prog.run_ret, List.map_cons,
          kept, Option.join_some]
      · rintro k (_ | ⟨_, mem⟩)
        · rw [kept]
          rfl
        · exact rest.known k mem
      · rintro k (_ | ⟨_, mem⟩) miss
        · obtain ⟨n, answer, answered, rfl⟩ := learnt miss
          exact ⟨n, answer, answered, kept⟩
        · by_cases same : k = key
          · subst same
            obtain ⟨n, answer, answered, rfl⟩ := learnt miss
            exact ⟨n, answer, answered, kept⟩
          · refine rest.fetched k mem ?_
            rw [RpcSnapshotSource.cached_get_of_ok got, Function.update_of_ne same, miss]
      · rw [rest.fetches, fetches]

/-! ## The second run -/

section

variable {format : SnapshotFormat} {site site' : Site} {config config' : ForkConfig} {path : Path}
  {stamp : SaveStamp} {disk disk' : Disk format} {keys keys' : List LedgerKey}
  {env last env' : ForkedEnv X}

/-- The entries a fork was built with on top of its cache file. -/
def ForkedEnv.minted (config : ForkConfig) (env : ForkedEnv X) :
    List (LedgerKey × LedgerEntry × Option UInt32) :=
  mintedEntries env.testAccounts config.testTrustlines env.forkLedgerSequence

theorem ForkConfig.Mints.mem {key : LedgerKey} (mints : config.Mints site key)
    (built : config.build format site disk = .ok env) :
    ∃ minted ∈ env.minted config, minted.1 = key := by
  obtain ⟨a, mem, same⟩ := mints
  rw [← (ForkConfig.build_eq_ok built).2.2] at mem
  rcases same with rfl | ⟨asset, memAsset, rfl⟩
  · exact ⟨_, List.mem_flatMap.mpr ⟨a, mem, .head _⟩, rfl⟩
  · exact ⟨_, List.mem_flatMap.mpr ⟨a, mem, .tail _ (List.mem_map.mpr ⟨asset, memAsset, rfl⟩)⟩, rfl⟩

/-- A minted key is cached as present. -/
theorem ForkConfig.Mints.cached {key : LedgerKey} (mints : config.Mints site key)
    (built : config.build format site disk = .ok env) :
    ∃ found, env.source.cached key = some (some found) := by
  rw [(ForkConfig.build_eq_ok built).2.1]
  exact RpcSnapshotSource.exists_cached_preload (mints.mem built)

/-- Two forks that minted the same entries agree on the keys of these. -/
theorem cached_eq_of_minted_eq {key : LedgerKey} (mints : config'.Mints site' key)
    (built : config.build format site disk = .ok env)
    (built' : config'.build format site' disk' = .ok env')
    (same : env'.minted config' = env.minted config) :
    env'.source.cached key = env.source.cached key := by
  have mem := mints.mem built'
  rw [(ForkConfig.build_eq_ok built).2.1, (ForkConfig.build_eq_ok built').2.1]
  unfold ForkedEnv.minted at same mem
  rw [same] at mem ⊢
  exact RpcSnapshotSource.cached_preload_eq_of_mem mem

/-- **The second run.**  A fork that has read some keys is dropped, and a fork
built from its file reads them again, in any order.  It fetches each key that the
first run found absent, unless it mints it, and no other key.  It answers each
key the same way, if upstream still lacks those that were absent, and if the keys
it mints were minted alike in the first run. -/
theorem second_run {world world' : World X} (cacheFile : config.cachePath = some path)
    (built : config.build format site disk = .ok env) (noErrors : world.client.NoErrors)
    (read : (env.read world (readKeys keys)).2 = last) (positive : last.source.entries ≠ [])
    (sameFile : config'.cachePath = some path)
    (rebuilt : config'.build format site' (last.drop format .none stamp disk') = .ok env')
    (noErrors' : world'.client.NoErrors) (sameKeys : keys'.Perm keys) :
    ∃ (first second : LedgerKey → Option EntryWithLiveUntil) (last' : ForkedEnv X),
      env.read world (readKeys keys) = (.ok (keys.map first), last) ∧
      env'.read world' (readKeys keys') = (.ok (keys'.map second), last') ∧
      last'.source.fetches =
        (keys.toFinset.filter fun key => first key = none ∧ ¬config'.Mints site' key).card ∧
      ∀ key ∈ keys, (config'.Mints site' key → env'.minted config' = env.minted config) →
        (first key = none → ∀ n, world'.client n key = .ok none) → second key = first key := by
  obtain ⟨s, run⟩ := readKeys_spec noErrors keys env.source
  obtain ⟨s', run'⟩ := readKeys_spec noErrors' keys' env'.source
  have source : last = { env with source := s } := by
    rw [← read, ForkedEnv.read, run.answered]
  have cachePath : last.cachePath = some path := by
    rw [source, (ForkConfig.build_eq_ok built).1, cacheFile]
  -- what the second fork starts with, for the keys it does not mint
  have restarted {key : LedgerKey} (notMinted : ¬config'.Mints site' key) :
      env'.source.cached key = (s.cached key).join.map some := by
    rw [cached_restart cachePath positive sameFile rebuilt notMinted, source]
  refine ⟨fun key => (s.cached key).join, fun key => (s'.cached key).join,
    { env' with source := s' }, ?_, ?_, ?_, ?_⟩
  · rw [source, ForkedEnv.read, run.answered]
  · rw [ForkedEnv.read, run'.answered]
  · show s'.fetches = _
    rw [run'.fetches, fetches_build rebuilt, Nat.zero_add, List.toFinset_eq_of_perm _ _ sameKeys]
    congr 1
    refine Finset.filter_congr fun key _ => ?_
    by_cases mints : config'.Mints site' key
    · obtain ⟨found, cached⟩ := mints.cached rebuilt
      simp [cached, mints]
    · rw [restarted mints]
      simp [mints]
  · intro key mem sameMint stillAbsent
    have mem' := sameKeys.mem_iff.mpr mem
    dsimp only at stillAbsent ⊢
    by_cases mints : config'.Mints site' key
    · obtain ⟨found, cached⟩ := mints.cached rebuilt
      have before := cached_eq_of_minted_eq mints built rebuilt (sameMint mints)
      rw [cached] at before
      rw [run.extends_cached key _ before.symm, run'.extends_cached key _ cached]
    · have start := restarted mints
      rcases held : (s.cached key).join with _ | found
      · rw [held] at start
        obtain ⟨n, answer, answered, learnt⟩ := run'.fetched key mem' start
        rw [stillAbsent held n] at answered
        cases answered
        rw [learnt]
        rfl
      · rw [held] at start
        rw [run'.extends_cached key _ start]
        rfl

end

namespace Sample

/-- A key that upstream does not have. -/
def absentSlot : LedgerKey := slotKey (.contract (bytes32 2)) (.contract (bytes32 2))

/-- The fork after reading a key that upstream has and one that it does not have. -/
def firstRun : ForkedEnv xdr :=
  ((forked fun _ => none).read removingWorld (readKeys [ownSlot, absentSlot])).2

/-- The same reads over the file that the first run left. -/
def secondRun : Except Panic (List (Option EntryWithLiveUntil)) × ForkedEnv xdr :=
  (forked (firstRun.drop snapshotFormat .none stamp fun _ => none)).read removingWorld
    (readKeys [ownSlot, absentSlot])

theorem removingWorld_noErrors : removingWorld.client.NoErrors := fun _ _ => ⟨_, rfl⟩

end Sample

open Sample in
theorem second_run_ownSlot_absentSlot :
    ∃ (first second : LedgerKey → Option EntryWithLiveUntil) (last' : ForkedEnv xdr),
      (forked fun _ => none).read removingWorld (readKeys [ownSlot, absentSlot]) =
        (.ok ([ownSlot, absentSlot].map first), firstRun) ∧
      (forked (firstRun.drop snapshotFormat .none stamp fun _ => none)).read removingWorld
        (readKeys [absentSlot, ownSlot]) = (.ok ([absentSlot, ownSlot].map second), last') ∧
      last'.source.fetches = ([ownSlot, absentSlot].toFinset.filter fun key =>
        first key = none ∧ ¬config.Mints site key).card ∧
      ∀ key ∈ [ownSlot, absentSlot],
        (config.Mints site key →
          (forked (firstRun.drop snapshotFormat .none stamp fun _ => none)).minted config =
            (forked fun _ => none).minted config) →
        (first key = none → ∀ n, removingWorld.client n key = .ok none) →
          second key = first key :=
  second_run rfl (build_forked _) removingWorld_noErrors rfl (by decide) rfl (build_forked _)
    removingWorld_noErrors (.swap _ _ _)

open Sample in
/-- The second run over a present and an absent key makes one fetch. -/
theorem second_run_fetches_again :
    config.build snapshotFormat site (fun _ => none) = .ok (forked fun _ => none) ∧
      config.build snapshotFormat site (firstRun.drop snapshotFormat .none stamp fun _ => none) =
        .ok (forked (firstRun.drop snapshotFormat .none stamp fun _ => none)) ∧
      ((forked fun _ => none).read removingWorld (readKeys [ownSlot, absentSlot])).1 =
        .ok [some (ownSlotEntry, none), none] ∧
      secondRun.1 = .ok [some (ownSlotEntry, none), none] ∧
      secondRun.2.source.fetchCount = 1 := by
  refine ⟨rfl, rfl, by decide, by decide, by decide⟩

end SorobanFork
