import SorobanFork.Persistence
import SorobanFork.Server.Concurrent
import SorobanFork.Server.Decoding

/-!
# Keys and entries agree

An entry names its own key: the account id of an account, the contract, storage
key and durability of contract data, and so on.  A cache is coherent when every
entry lies under the key it names.  The fork never checks this; it holds
because each of its writers builds key and entry from the same data, or reuses
an entry it found under the key.

`Coherent` is the invariant.  It is kept by reads from a coherent upstream, by
the changes of a coherent host, by bumps and by writes of coherent entries
(`coherent_step`); a build starts with it (`coherent_build`).  The handlers of
all requests keep to it as clients of one worker (`coherent_requests`), whatever
the interleaving.
-/

namespace SorobanFork

open Lib

/-- Every entry that is held lies under its own key. -/
def Coherent (held : LedgerKey → Option EntryWithLiveUntil) : Prop :=
  ∀ key found, held key = some found → found.1.data.key = key

namespace Coherent

variable {held : LedgerKey → Option EntryWithLiveUntil} {key : LedgerKey}
  {found : EntryWithLiveUntil}

theorem update (coherent : Coherent held) {value : Option EntryWithLiveUntil}
    (own : ∀ found, value = some found → found.1.data.key = key) :
    Coherent (Function.update held key value) := by
  intro k found at_k
  by_cases same : k = key
  · rw [same, Function.update_self] at at_k
    rw [own found at_k, same]
  · rw [Function.update_of_ne same] at at_k
    exact coherent k found at_k

/-- An entry under an account's key is that account. -/
theorem account (coherent : Coherent held) {id : AccountId}
    (at_key : held (.account id) = some found) :
    ∃ account, found.1.data = .account account ∧ account.accountId = id := by
  have named := coherent _ _ at_key
  cases data : found.1.data with
  | account account =>
      rw [data] at named
      exact ⟨account, rfl, LedgerKey.account.inj named⟩
  | _ =>
      rw [data] at named
      cases named

end Coherent

/-! ## The source -/

section

variable {X : Xdr}

/-- Upstream answers each key with an entry that names it. -/
def RpcClient.Coherent (client : RpcClient) : Prop :=
  ∀ n key fetched, client n key = .ok (some fetched) → fetched.entry.data.key = key

/-- On a coherent ledger, each entry the host writes names the key of its change. -/
def World.HostCoherent (world : World X) : Prop :=
  ∀ info hostFunction sourceAccount ledger, SorobanFork.Coherent ledger →
    ∀ change ∈ ((world.invoke info hostFunction sourceAccount).value ledger).changesToApply,
      ∀ found, change.newValue = some found → found.1.data.key = change.key

namespace RpcSnapshotSource

variable {client : RpcClient} {s : RpcSnapshotSource X} {key : LedgerKey}

theorem coherent_get (upstream : client.Coherent) (coherent : Coherent s.held) :
    Coherent (s.get client key).2.held := by
  intro k found present
  rcases held_get present with before | ⟨n, fetched, answered, rfl⟩
  · exact coherent k found before
  · exact upstream n k fetched answered

theorem coherent_setEntry {entry : LedgerEntry} {liveUntil : Option UInt32}
    (own : entry.data.key = key) (coherent : Coherent s.held) :
    Coherent (s.setEntry key entry liveUntil).held := by
  rw [held_of_update (cached_setEntry key entry liveUntil)]
  refine coherent.update fun found present => ?_
  cases present
  exact own

theorem coherent_preload {entries : List (LedgerKey × LedgerEntry × Option UInt32)}
    (own : ∀ e ∈ entries, e.2.1.data.key = e.1) (coherent : Coherent s.held) :
    Coherent (s.preload entries).held := by
  intro k found at_k
  unfold held at at_k
  by_cases listed : ∃ e ∈ entries, e.1 = k
  · obtain ⟨e, memEntry, rfl, written⟩ := exists_writeAll_of_mem Prod.fst
      (fun e : LedgerKey × EntryWithLiveUntil => some e.2) (m := s.cached) listed
    have stored : (s.preload entries).cached e.1 = some (some e.2) := by
      rw [cached_preload]
      exact written
    rw [stored, Option.join_some] at at_k
    cases at_k
    exact own e memEntry
  · have untouched : ∀ e ∈ entries, e.1 ≠ k := fun e memEntry same => listed ⟨e, memEntry, same⟩
    rw [cached_preload_of_not_mem untouched] at at_k
    exact coherent k found at_k

theorem coherent_applyChanges {changes : List (LedgerEntryChange X)}
    (own : ∀ change ∈ changes, ∀ found, change.newValue = some found →
      found.1.data.key = change.key) (coherent : Coherent s.held) :
    Coherent (s.applyChanges changes).2.held := by
  rw [held_applyChanges]
  exact foldl_applyTo_induction coherent fun m change mem _ coherent =>
    coherent.update (own change mem)

theorem key_bumpSeq (entry : LedgerEntry) : entry.bumpSeq.data.key = entry.data.key := by
  unfold LedgerEntry.bumpSeq
  split
  · rename_i account data
    rw [data]
    rfl
  · rfl

theorem coherent_bumpAccountSeq (id : AccountId) (coherent : Coherent s.held) :
    Coherent (s.bumpAccountSeq id).2.held := by
  have bumped : (s.bumpAccountSeq id).2.held = Function.update s.held (.account id)
      ((s.held (.account id)).map fun found => (found.1.bumpSeq, found.2)) := by
    funext k
    unfold held
    rw [cached_bumpAccountSeq]
    by_cases same : k = .account id
    · rw [same, Function.update_self, Function.update_self]
      cases s.cached (.account id) <;> rfl
    · rw [Function.update_of_ne same, Function.update_of_ne same]
  rw [bumped]
  refine coherent.update fun found present => ?_
  obtain ⟨old, at_key, rfl⟩ := Option.map_eq_some_iff.mp present
  rw [key_bumpSeq]
  exact coherent _ _ at_key

/-- A bump of a coherent source finds an account, if it finds an entry at all. -/
theorem bumpAccountSeq_finds_account {id : AccountId} (coherent : Coherent s.held)
    (notBumped : (s.bumpAccountSeq id).1 = none) : s.held (.account id) = none := by
  cases at_key : s.held (.account id) with
  | none => rfl
  | some found =>
      obtain ⟨account, data, -⟩ := coherent.account at_key
      unfold held cached at at_key
      unfold bumpAccountSeq at notBumped
      rcases looked : s.cache.lookup (.account id) with _ | _ | ⟨bytes, liveUntil⟩
      · rw [looked] at at_key
        cases at_key
      · rw [looked] at at_key
        cases at_key
      · rw [looked] at at_key
        cases at_key
        have decoded : (decodeEntry bytes).data = .account account := data
        simp [looked, decoded] at notBumped

end RpcSnapshotSource

/-! ## Building a fork -/

theorem own_mintedEntries {testAccounts : List TestAccount} {testTrustlines : List TrustLineAsset}
    {sequence : UInt32} :
    ∀ e ∈ mintedEntries testAccounts testTrustlines sequence, e.2.1.data.key = e.1 := by
  intro e mem
  obtain ⟨a, -, mem⟩ := List.mem_flatMap.mp mem
  rcases List.mem_cons.mp mem with rfl | mem
  · rfl
  · obtain ⟨asset, -, rfl⟩ := List.mem_map.mp mem
    rfl

/-- The cache file, if it loads, holds each entry under its own key. -/
def CoherentFile (format : SnapshotFormat) (disk : Disk format) (config : ForkConfig) : Prop :=
  ∀ path entries, config.cachePath = some path → loadSnapshot format path disk = .ok entries →
    ∀ e ∈ entries, e.2.1.data.key = e.1

/-- A fork is built coherent. -/
theorem coherent_build {format : SnapshotFormat} {site : Site} {disk : Disk format}
    {config : ForkConfig} {env : ForkedEnv X} (file : CoherentFile format disk config)
    (built : config.build format site disk = .ok env) : Coherent env.source.held := by
  obtain ⟨-, source, -⟩ := ForkConfig.build_eq_ok built
  have empty : Coherent (RpcSnapshotSource.new (config.fetchMode.getD .strict) :
      RpcSnapshotSource X).held := by
    intro key found at_key
    cases at_key
  rw [source]
  refine RpcSnapshotSource.coherent_preload own_mintedEntries ?_
  unfold ForkConfig.initialSource
  cases path : config.cachePath with
  | none => exact empty
  | some path' =>
      dsimp only
      split
      · cases loaded : loadSnapshot format path' disk with
        | error e => exact empty
        | ok entries =>
            exact RpcSnapshotSource.coherent_preload (file path' entries path loaded) empty
      · exact empty

/-- A coherent fork leaves a coherent file. -/
theorem coherentFile_drop {format : SnapshotFormat} {stamp : SaveStamp} {disk : Disk format}
    {config : ForkConfig} {last : ForkedEnv X} (samePath : last.cachePath = config.cachePath)
    (positive : last.source.entries ≠ []) (coherent : Coherent last.source.held) :
    CoherentFile format (last.drop format .none stamp disk) config := by
  rintro path entries configured loaded ⟨key, found⟩ mem
  have saved : loadSnapshot format path (last.drop format .none stamp disk) =
      .ok last.source.entries :=
    loadSnapshot_drop (samePath.trans configured) positive
  rw [saved, Except.ok.injEq] at loaded
  rw [← loaded, RpcSnapshotSource.mem_entries] at mem
  refine coherent key found ?_
  rw [RpcSnapshotSource.held, mem, Option.join_some]

/-! ## One command -/

namespace Command

/-- The entry a direct write brings lies under its own key. -/
def Coherent : Command X → Prop
  | .setLedgerEntry key entry _ => entry.data.key = key
  | _ => True

/-- A read shows entries of a coherent ledger, one for each key. -/
def ShowsCoherent : (cmd : Command X) → cmd.Reply → Prop
  | .getLedgerEntries keys, reply => ∃ ledger, SorobanFork.Coherent ledger ∧
      LedgerEntriesReply.entries reply =
        keys.map fun key => (ledger key).map fun found => (key, found)
  | _, _ => True

end Command

section Step

variable {world : World X}

/-- The reads and the changes of an invocation keep the source coherent. -/
theorem ForkedEnv.coherent_invoke (upstream : world.client.Coherent) (host : world.HostCoherent)
    {env mid : ForkedEnv X} {hostFunction : HostFunction} {sourceAccount : AccountId}
    {invocation : Invocation X} (coherent : Coherent env.source.held)
    (ran : env.read world (world.invoke env.ledger hostFunction sourceAccount) =
      (.ok invocation, mid)) :
    Coherent mid.source.held ∧
      Coherent (mid.source.applyChanges invocation.changesToApply).2.held := by
  have inSource := ForkedEnv.source_of_read ran
  have read : Coherent mid.source.held := by
    have kept := RpcSnapshotSource.read_kept (fun source => Coherent source.held)
      (fun _ _ => RpcSnapshotSource.coherent_get upstream)
      (world.invoke env.ledger hostFunction sourceAccount) coherent
    rwa [inSource] at kept
  refine ⟨read, RpcSnapshotSource.coherent_applyChanges ?_ read⟩
  -- the host computed its changes from the ledger that the cache now shows
  have valued := (RpcSnapshotSource.asked_of_read inSource).1
  have own := host env.ledger hostFunction sourceAccount mid.source.held read
  rwa [show (world.invoke env.ledger hostFunction sourceAccount).value mid.source.held =
    invocation from valued] at own

/-- **A command keeps keys and entries together.** -/
theorem Worker.coherent_step (upstream : world.client.Coherent) (host : world.HostCoherent)
    {w : Worker X} {cmd : Command X} (coherent : Coherent w.env.source.held)
    (own : cmd.Coherent) : Coherent (w.step world cmd).2.env.source.held := by
  by_cases readOnly : cmd.ReadOnly
  · exact Worker.step_kept (fun source => Coherent source.held)
      (fun _ _ => RpcSnapshotSource.coherent_get upstream) readOnly coherent
  cases cmd with
  | setLedgerEntry key entry liveUntil =>
      rw [step_setLedgerEntry]
      exact RpcSnapshotSource.coherent_setEntry own coherent
  | closeLedgers ledgers seconds => exact coherent
  | sendTransaction envelopeBytes hostFunction sourceAccount =>
      rcases sendTransaction_cases world envelopeBytes hostFunction sourceAccount
          ((world.systemTime w.clockReads).getD 0) w.env with
        ⟨panic, mid, ran, -, sent⟩ | ⟨invocation, mid, ran, -, outcome⟩
      · have kept := RpcSnapshotSource.read_kept (fun source => Coherent source.held)
          (fun _ _ => RpcSnapshotSource.coherent_get upstream)
          (world.invoke w.env.ledger hostFunction sourceAccount) coherent
        rw [step_sendTransaction_of_error sent]
        rwa [ForkedEnv.source_of_read ran] at kept
      · obtain ⟨read, applied⟩ := ForkedEnv.coherent_invoke upstream host coherent ran
        rcases outcome with ⟨message, -, sent⟩ | ⟨value, -, sent⟩
        · rw [step_sendTransaction_of_ok sent]
          exact read
        · rw [step_sendTransaction_of_ok sent]
          exact RpcSnapshotSource.coherent_bumpAccountSeq sourceAccount applied
  | _ => exact absurd trivial readOnly

theorem Worker.coherent_beforeBump (upstream : world.client.Coherent) (host : world.HostCoherent)
    {w : Worker X} (coherent : Coherent w.env.source.held) (hostFunction : HostFunction)
    (sourceAccount : AccountId) :
    Coherent (w.beforeBump world hostFunction sourceAccount).held := by
  have kept := RpcSnapshotSource.read_kept (fun source => Coherent source.held)
    (fun _ _ => RpcSnapshotSource.coherent_get upstream)
    (world.invoke w.env.ledger hostFunction sourceAccount) coherent
  unfold beforeBump
  rcases ran : w.env.read world (world.invoke w.env.ledger hostFunction sourceAccount) with
    ⟨panic | invocation, mid⟩
  · rwa [ForkedEnv.source_of_read ran] at kept
  · exact (ForkedEnv.coherent_invoke upstream host coherent ran).2

/-- A command that was answered keeps the server coherent, and shows entries
under their own keys. -/
theorem Server.coherent_step (upstream : world.client.Coherent) (host : world.HostCoherent)
    {server server' : Server X} {cmd : Command X} {out : Except ActorError cmd.Reply}
    (coherent : Coherent server.worker.env.source.held) (own : cmd.Coherent)
    (stepped : server.step world cmd = (out, server')) :
    Coherent server'.worker.env.source.held ∧
      ∀ reply, out = .ok reply → cmd.ShowsCoherent reply := by
  have kept : Coherent (server.step world cmd).2.worker.env.source.held := by
    rw [Server.step_worker]
    split
    · exact Worker.coherent_step upstream host coherent own
    · exact coherent
  rw [stepped] at kept
  refine ⟨kept, ?_⟩
  rintro reply rfl
  cases cmd with
  | getLedgerEntries keys =>
      obtain ⟨-, w, ran, rfl⟩ := Server.step_ok_iff.mp stepped
      rw [Worker.step] at ran
      rcases read : server.worker.env.read world (resolveLedgerEntries keys) with
        ⟨panic | entries, env⟩
      · rw [read] at ran
        cases ran
      · rw [read] at ran
        cases ran
        have valued := (RpcSnapshotSource.asked_of_read (ForkedEnv.source_of_read read)).1
        rw [value_resolveLedgerEntries] at valued
        exact ⟨env.source.held, kept, valued.symm⟩
  | _ => trivial

end Step

end

end SorobanFork
