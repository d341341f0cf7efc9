import SorobanFork.SecondRun

/-!
# The test accounts of a fork that is built again

A build pre-loads the cache file first and mints its test accounts after it, so
a minted account or trustline starts afresh in every run, whatever an earlier
run saved under its key.  Every other key answers what the file says, and only
these keys are cached (`answers_of_build`).
-/

namespace SorobanFork

open Lib

/-- The last entry that a file lists under a key. -/
def LastIn (entries : List (LedgerKey × LedgerEntry × Option UInt32)) (key : LedgerKey)
    (found : EntryWithLiveUntil) : Prop :=
  ∃ before after, entries = before ++ (key, found) :: after ∧ ∀ e ∈ after, e.1 ≠ key

/-- What a build at a ledger mints under a key. -/
def mintedAt (sequence : UInt32) : LedgerKey → Option EntryWithLiveUntil
  | .account id =>
    some (⟨sequence, .account (.fresh id defaultBalanceStroops (initialSeq sequence)), .v0⟩, none)
  | .trustline id asset => some (⟨sequence, .trustline (.fresh id asset 0), .v0⟩, none)
  | _ => none

section

variable {X : Xdr} {format : SnapshotFormat} {site : Site} {disk : Disk format}
  {config : ForkConfig} {env : ForkedEnv X} {path : Path} {key : LedgerKey}
  {found : EntryWithLiveUntil} {entries : List (LedgerKey × LedgerEntry × Option UInt32)}

/-- Each key of a file has a last entry. -/
theorem exists_lastIn (mem : ∃ e ∈ entries, e.1 = key) : ∃ found, LastIn entries key found := by
  induction entries with
  | nil =>
      obtain ⟨e, mem, -⟩ := mem
      cases mem
  | cons first entries ih =>
      by_cases later : ∃ e ∈ entries, e.1 = key
      · obtain ⟨found, before, after, rfl, last⟩ := ih later
        exact ⟨found, first :: before, after, rfl, last⟩
      · obtain ⟨e, mem, same⟩ := mem
        have here : first.1 = key := by
          rcases List.mem_cons.mp mem with rfl | mem
          · exact same
          · exact absurd ⟨e, mem, same⟩ later
        subst here
        exact ⟨first.2, [], entries, rfl, fun e mem same => later ⟨e, mem, same⟩⟩

theorem RpcSnapshotSource.cached_preload_of_lastIn {s : RpcSnapshotSource X}
    (last : LastIn entries key found) : (s.preload entries).cached key = some (some found) := by
  obtain ⟨before, after, rfl, last⟩ := last
  rw [cached_preload]
  exact writeAll_of_last Prod.fst (fun e : LedgerKey × EntryWithLiveUntil => some e.2) last

/-- The minted entries under one key are all alike. -/
theorem mintedAt_of_mem {publicKey : Nat → Uint256} {count : Nat}
    {testTrustlines : List TrustLineAsset} {sequence : UInt32}
    (mem : (key, found) ∈ mintedEntries (generate publicKey count) testTrustlines sequence) :
    mintedAt sequence key = some found := by
  obtain ⟨a, memAccount, mem⟩ := List.mem_flatMap.mp mem
  obtain ⟨i, -, rfl⟩ := List.mem_map.mp memAccount
  rcases List.mem_cons.mp mem with same | mem
  · cases same
    rfl
  · obtain ⟨asset, -, same⟩ := List.mem_map.mp mem
    cases same
    rfl

/-- A minted key is cached with what a build at that ledger mints. -/
theorem ForkConfig.Mints.cached_mintedAt (mints : config.Mints site key)
    (built : config.build format site disk = .ok env) :
    ∃ minted, mintedAt env.forkLedgerSequence key = some minted ∧
      env.source.cached key = some (some minted) := by
  obtain ⟨-, source, accounts⟩ := ForkConfig.build_eq_ok built
  obtain ⟨⟨mintedKey, minted⟩, mem, rfl⟩ := mints.mem built
  unfold ForkedEnv.minted at mem
  rw [accounts] at source mem
  have value := mintedAt_of_mem mem
  refine ⟨minted, value, ?_⟩
  rw [source]
  refine RpcSnapshotSource.cached_preload_of_mem mem fun other memOther => ?_
  exact Option.some.inj ((mintedAt_of_mem memOther).symm.trans value)

/-- **What a rebuilt fork answers.**  A key of the file that the build does not
mint answers with its entry and live-until in the file, a minted key with a fresh
account or trustline whatever the file holds, and no other key is cached. -/
theorem answers_of_build (samePath : config.cachePath = some path)
    (loaded : loadSnapshot format path disk = .ok entries)
    (built : config.build format site disk = .ok env) (client : RpcClient) (key : LedgerKey) :
    (¬config.Mints site key →
      ((∃ e ∈ entries, e.1 = key) → ∃ found, LastIn entries key found ∧
        env.source.get client key = (.ok (some found), env.source)) ∧
      ((∀ e ∈ entries, e.1 ≠ key) → env.source.cached key = none)) ∧
    (config.Mints site key →
      ∃ minted, mintedAt env.forkLedgerSequence key = some minted ∧
        env.source.get client key = (.ok (some minted), env.source)) := by
  constructor
  · intro notMinted
    have held := cached_build_of_not_mints built notMinted
    rw [ForkConfig.initialSource_of_load samePath loaded] at held
    constructor
    · intro listed
      obtain ⟨found, last⟩ := exists_lastIn listed
      rw [RpcSnapshotSource.cached_preload_of_lastIn last] at held
      exact ⟨found, last, RpcSnapshotSource.get_of_cached held⟩
    · intro notListed
      rw [held, RpcSnapshotSource.cached_preload_of_not_mem notListed]
      rfl
  · intro mints
    obtain ⟨minted, value, held⟩ := mints.cached_mintedAt built
    exact ⟨minted, value, RpcSnapshotSource.get_of_cached held⟩

end

/-! ## An account that moved its balance -/

namespace Sample

/-- A test account with its balance set to 77. -/
def movedAccount : LedgerEntry := ⟨101, .account (.fresh (account 0) 77 6), .v0⟩

/-- The fork after its test account was set so. -/
def movedBalance : ForkedEnv xdr :=
  (started.step world (.setLedgerEntry (.account (account 0)) movedAccount none)).2.worker.env

/-- The file it leaves. -/
def fileAfterMove : Disk snapshotFormat :=
  movedBalance.drop snapshotFormat .none stamp fun _ => none

/-- What is in it. -/
def movedEntries : List (LedgerKey × LedgerEntry × Option UInt32) :=
  [(.account (account 0), movedAccount, none)]

theorem entries_movedBalance : movedBalance.source.entries = movedEntries := by decide

theorem loadSnapshot_fileAfterMove :
    loadSnapshot snapshotFormat ⟨"", "cache.json"⟩ fileAfterMove = .ok movedEntries := by
  rw [fileAfterMove, loadSnapshot_drop rfl (by decide), entries_movedBalance]

end Sample

open Sample in
/-- The file holds the account with a balance of 77; the fork built from it has
the balance of a fresh account. -/
theorem rebuilt_account_is_reset :
    config.build snapshotFormat site fileAfterMove = .ok (forked fileAfterMove) ∧
      loadSnapshot snapshotFormat ⟨"", "cache.json"⟩ fileAfterMove = .ok movedEntries ∧
      (forked fileAfterMove).source.get world.client (.account (account 0)) =
        (.ok (some (⟨100, .account (.fresh (account 0) defaultBalanceStroops (initialSeq 100)),
          .v0⟩, none)), (forked fileAfterMove).source) ∧
      movedAccount ≠
        ⟨100, .account (.fresh (account 0) defaultBalanceStroops (initialSeq 100)), .v0⟩ := by
  refine ⟨rfl, loadSnapshot_fileAfterMove, ?_, by decide⟩
  apply RpcSnapshotSource.get_of_cached
  decide

open Sample in
theorem answers_of_build_account :
    (¬config.Mints site (.account (account 0)) →
      ((∃ e ∈ movedEntries, e.1 = .account (account 0)) →
        ∃ found, LastIn movedEntries (.account (account 0)) found ∧
          (forked fileAfterMove).source.get world.client (.account (account 0)) =
            (.ok (some found), (forked fileAfterMove).source)) ∧
      ((∀ e ∈ movedEntries, e.1 ≠ .account (account 0)) →
        (forked fileAfterMove).source.cached (.account (account 0)) = none)) ∧
    (config.Mints site (.account (account 0)) →
      ∃ minted, mintedAt 100 (.account (account 0)) = some minted ∧
        (forked fileAfterMove).source.get world.client (.account (account 0)) =
          (.ok (some minted), (forked fileAfterMove).source)) :=
  answers_of_build rfl loadSnapshot_fileAfterMove (build_forked fileAfterMove) world.client
    (.account (account 0))

end SorobanFork
