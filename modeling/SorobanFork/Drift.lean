import SorobanFork.Sample
import SorobanFork.Server.Concurrent

/-!
# A gateway that drifts

The upstream of a fork is live: its answers change while the fork runs.  A fork
asks it once for each key and keeps the answer, so it cannot tell one gateway from
another that differs on keys it has seen, or on answers it was already given.

`run_over`: two gateways that agree from now on, on the keys the cache does not hold,
take any clients through any schedule alike.
-/

namespace SorobanFork

open Lib

variable {X : Xdr}

/-- The same host and machine, over another gateway. -/
def World.over (world : World X) (client : RpcClient) : World X := { world with client := client }

/-- From now on the two gateways agree on the keys that are not cached. -/
def Unaware (client client' : RpcClient) (source : RpcSnapshotSource X) : Prop :=
  ∀ n key, source.fetches ≤ n → source.cached key = none → client' n key = client n key

namespace Unaware

variable {client client' : RpcClient} {source source' : RpcSnapshotSource X}

/-- More keys and more fetches leave less to agree on. -/
theorem mono (unaware : Unaware client client' source)
    (fetches : source.fetches ≤ source'.fetches)
    (grows : ∀ key, (source.cached key).isSome → (source'.cached key).isSome) :
    Unaware client client' source' := by
  intro n key later miss
  refine unaware n key (le_trans fetches later) ?_
  by_contra held
  have present := grows key (Option.isSome_iff_ne_none.mpr held)
  rw [miss] at present
  cases present

theorem get_eq (unaware : Unaware client client' source) (key : LedgerKey) :
    source.get client' key = source.get client key := by
  cases hit : source.cached key with
  | some value =>
      rw [RpcSnapshotSource.get_of_cached hit, RpcSnapshotSource.get_of_cached hit]
  | none =>
      rw [RpcSnapshotSource.get_of_not_cached hit, RpcSnapshotSource.get_of_not_cached hit,
        RpcSnapshotSource.fetchFromRpc, RpcSnapshotSource.fetchFromRpc,
        unaware source.fetches key le_rfl hit]

end Unaware

theorem RpcSnapshotSource.fetches_le_get (client : RpcClient) (key : LedgerKey)
    (source : RpcSnapshotSource X) : source.fetches ≤ (source.get client key).2.fetches := by
  unfold get fetchFromRpc
  cases source.cache.lookup key with
  | some value => exact le_rfl
  | none =>
      rcases client source.fetches key with e | _ | fetched
      · cases source.fetchMode <;> exact Nat.le_succ _
      · exact Nat.le_succ _
      · exact Nat.le_succ _

namespace Unaware

variable {client client' : RpcClient} {source : RpcSnapshotSource X} {world : World X}
  {env : ForkedEnv X}

theorem get (unaware : Unaware client client' source) (key : LedgerKey) :
    Unaware client client' (source.get client key).2 := by
  refine unaware.mono (source.fetches_le_get client key) fun other held => ?_
  obtain ⟨value, cached⟩ := Option.isSome_iff_exists.mp held
  rw [RpcSnapshotSource.cached_get_of_cached cached]
  rfl

/-! ## Commands -/

theorem read_eq {α : Type} (unaware : Unaware world.client client' env.source)
    (reader : Reader α) : env.read (world.over client') reader = env.read world reader := by
  have same : env.source.read client' reader = env.source.read world.client reader :=
    Prog.run_congr (Unaware world.client client') (fun key _ unaware => unaware.get_eq key)
      (fun key _ unaware => unaware.get key) reader unaware
  rw [ForkedEnv.read, ForkedEnv.read, ← same]
  rfl

theorem read {α : Type} (unaware : Unaware world.client client' env.source)
    (reader : Reader α) : Unaware world.client client' (env.read world reader).2.source :=
  RpcSnapshotSource.read_kept _ (fun key _ unaware => unaware.get key) reader unaware

theorem feeConfiguration_eq (unaware : Unaware world.client client' env.source) :
    env.feeConfiguration (world.over client') = env.feeConfiguration world := by
  unfold ForkedEnv.feeConfiguration
  rw [unaware.read_eq]

theorem simulateTransaction_eq (unaware : Unaware world.client client' env.source)
    (hostFunction : HostFunction) (sourceAccount : AccountId) (size : UInt32) :
    simulateTransaction (world.over client') hostFunction sourceAccount size env =
      simulateTransaction world hostFunction sourceAccount size env := by
  have rest := unaware.read (world.invoke env.ledger hostFunction sourceAccount)
  unfold simulateTransaction computeMinResourceFee
  rw [unaware.read_eq]
  rw [show (world.over client').invoke = world.invoke from rfl]
  rcases ran : env.read world (world.invoke env.ledger hostFunction sourceAccount) with
    ⟨panic | invocation, mid⟩
  · rfl
  · rw [ran] at rest
    dsimp only
    rw [rest.feeConfiguration_eq]
    rfl

theorem sendTransaction_eq (unaware : Unaware world.client client' env.source)
    (envelopeBytes : X.Buf) (hostFunction : HostFunction) (sourceAccount : AccountId)
    (createdAt : UInt64) :
    sendTransaction (world.over client') envelopeBytes hostFunction sourceAccount createdAt env =
      sendTransaction world envelopeBytes hostFunction sourceAccount createdAt env := by
  unfold sendTransaction
  rw [unaware.read_eq]
  rfl

theorem workerStep_eq {w : Worker X} (unaware : Unaware world.client client' w.env.source)
    (cmd : Command X) : w.step (world.over client') cmd = w.step world cmd := by
  cases cmd with
  | getLedgerEntries keys => rw [Worker.step, Worker.step, unaware.read_eq]
  | simulateTransaction hostFunction sourceAccount size =>
      rw [Worker.step, Worker.step, unaware.simulateTransaction_eq]
  | sendTransaction envelopeBytes hostFunction sourceAccount =>
      rw [Worker.step, Worker.step, unaware.sendTransaction_eq]
      rfl
  | _ => rfl

end Unaware

/-- What a read, a write, a batch of changes and a bump each preserve of the source,
every command preserves. -/
theorem Worker.step_source_kept (world : World X) (inv : RpcSnapshotSource X → Prop)
    (get : ∀ key source, inv source → inv (source.get world.client key).2)
    (setEntry : ∀ key entry liveUntil source,
      inv source → inv (source.setEntry key entry liveUntil))
    (applyChanges : ∀ changes source, inv source → inv (source.applyChanges changes).2)
    (bump : ∀ id source, inv source → inv (source.bumpAccountSeq id).2)
    (cmd : Command X) {w : Worker X} (holds : inv w.env.source) :
    inv (w.step world cmd).2.env.source := by
  by_cases readOnly : cmd.ReadOnly
  · exact Worker.step_kept inv get readOnly holds
  cases cmd with
  | setLedgerEntry key entry liveUntil => exact setEntry key entry liveUntil _ holds
  | closeLedgers ledgers seconds => exact holds
  | sendTransaction envelopeBytes hostFunction sourceAccount =>
      have read : inv (w.env.read world
          (world.invoke w.env.ledger hostFunction sourceAccount)).2.source :=
        RpcSnapshotSource.read_kept inv get _ holds
      rcases sendTransaction_cases world envelopeBytes hostFunction sourceAccount
        ((world.systemTime w.clockReads).getD 0) w.env with
        ⟨panic, mid, ran, -, sent⟩ | ⟨invocation, mid, ran, -, outcome⟩
      · rw [ran] at read
        rw [Worker.step_sendTransaction_of_error sent]
        exact read
      · rw [ran] at read
        rcases outcome with ⟨message, -, sent⟩ | ⟨value, -, sent⟩
        · rw [Worker.step_sendTransaction_of_ok sent]
          exact read
        · rw [Worker.step_sendTransaction_of_ok sent]
          exact bump sourceAccount _ (applyChanges invocation.changesToApply _ read)
  | _ => exact absurd trivial readOnly

theorem RpcSnapshotSource.fetches_bumpAccountSeq (id : AccountId) (source : RpcSnapshotSource X) :
    (source.bumpAccountSeq id).2.fetches = source.fetches := by
  unfold bumpAccountSeq
  dsimp only
  split
  · rfl
  · rfl
  · split <;> rfl

/-- No command takes a fetch back. -/
theorem Worker.fetches_le_step (world : World X) (cmd : Command X) (w : Worker X) :
    w.env.source.fetches ≤ (w.step world cmd).2.env.source.fetches := by
  refine Worker.step_source_kept world (fun source => w.env.source.fetches ≤ source.fetches)
    (fun key source le => le_trans le (source.fetches_le_get world.client key))
    (fun _ _ _ _ => id) (fun _ _ => id) (fun id source le => ?_) cmd le_rfl
  rw [source.fetches_bumpAccountSeq]
  exact le

namespace Server

variable {world : World X} {client' : RpcClient} {server : Server X}

theorem step_over (cmd : Command X)
    (unaware : Unaware world.client client' server.worker.env.source) :
    server.step (world.over client') cmd = server.step world cmd := by
  unfold step
  rw [unaware.workerStep_eq]

theorem unaware_step (cmd : Command X)
    (unaware : Unaware world.client client' server.worker.env.source) :
    Unaware world.client client' (server.step world cmd).2.worker.env.source := by
  rw [step_worker]
  split
  · exact unaware.mono (Worker.fetches_le_step world cmd _) fun _ =>
      Worker.isSome_cached_step world cmd
  · exact unaware

end Server

/-- **The fork is cut off from what it has seen.**  Take any clients of a fork, at any
point, and a second gateway that from then on agrees with the first on the keys that
are not cached.  Over either, every schedule gives each client the same replies, and
the fork the same state. -/
theorem run_over {κ α : Type} [DecidableEq κ] {world : World X} {client' : RpcClient}
    {c : Clients κ (Command X) Command.Reply ActorError (Server X) α}
    (unaware : Unaware world.client client' c.server.worker.env.source) (schedule : List κ) :
    Clients.run (Server.step (world.over client')) schedule c =
      Clients.run (Server.step world) schedule c :=
  Clients.run_congr (Server.step world)
    (fun server => Unaware world.client client' server.worker.env.source)
    (fun cmd _ => Server.step_over cmd) (fun cmd _ => Server.unaware_step cmd) schedule unaware

namespace Sample

/-- A gateway that has lost account 1. -/
def drifted : RpcClient := fun _ key =>
  if key = .account (account 1) then .error (.transport "gone") else .ok (upstream key)

end Sample

open Sample in
theorem run_over_drifted :
    Clients.run (Server.step (world.over drifted)) [true, false, true]
        (concurrently world (wire [("K", .ledgerKey (.account (account 1)))])
          (fun first => if first then ("getLedgerEntries", .getLedgerEntries ⟨["K"]⟩)
            else ("fork_closeLedgers", .null))
          (server [accountEntry 1 5])) =
      Clients.run (Server.step world) [true, false, true]
        (concurrently world (wire [("K", .ledgerKey (.account (account 1)))])
          (fun first => if first then ("getLedgerEntries", .getLedgerEntries ⟨["K"]⟩)
            else ("fork_closeLedgers", .null))
          (server [accountEntry 1 5])) := by
  apply run_over
  intro n key _ miss
  refine if_neg ?_
  rintro rfl
  cases miss

end SorobanFork
