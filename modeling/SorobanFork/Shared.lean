import SorobanFork.Lib.Machine
import SorobanFork.Sample

/-!
# A source shared by threads

`RpcSnapshotSource` is `Send + Sync`: threads may share one.  Its cache is
behind a mutex, but a `get` that misses is three steps of its thread: the
lookup, the RPC exchange outside the lock, and the insertion.  `Shared.step`
is one such step of one thread; a run is any interleaving.

Run without interference, the three steps are the sequential `get`
(`run_get`).  Interleaved, the insertion overwrites whatever the cache has come
to hold in the meantime.  `fetches_keep_cache_iff` says exactly when no fetch of
a run does so.
-/

namespace SorobanFork

open Lib

variable {X : Xdr} {κ : Type} [DecidableEq κ]

/-- Where a thread is. -/
inductive ThreadState : Type
  | idle
  /-- It missed the key and is talking to upstream. -/
  | fetching (key : LedgerKey)
  /-- It has an answer and is about to insert it. -/
  | fetched (key : LedgerKey) (result : Option EntryWithLiveUntil)
  /-- Its fetch failed in strict mode. -/
  | panicked

/-- One step of a thread; `rpc` carries what upstream says at that time. -/
inductive Event (X : Xdr) (κ : Type) : Type
  | lookup (t : κ) (key : LedgerKey)
  | rpc (t : κ) (answer : Except ForkError (Option FetchedEntry))
  | insert (t : κ)
  | setEntry (t : κ) (key : LedgerKey) (entry : LedgerEntry) (liveUntil : Option UInt32)
  | preload (t : κ) (entries : List (LedgerKey × LedgerEntry × Option UInt32))
  | applyChanges (t : κ) (changes : List (LedgerEntryChange X))
  | bumpAccountSeq (t : κ) (id : AccountId)

/-- A source and the threads that share it. -/
structure Shared (X : Xdr) (κ : Type) : Type where
  source : RpcSnapshotSource X
  threads : κ → ThreadState

/-- What a `get` that ends in this step returns. -/
abbrev GetOutput : Type := Option (LedgerKey × Option EntryWithLiveUntil)

namespace RpcSnapshotSource

/-- Remember the answer to a fetch, whatever the cache holds by now. -/
def insertFetched (key : LedgerKey) (result : Option EntryWithLiveUntil)
    (s : RpcSnapshotSource X) : RpcSnapshotSource X :=
  { s with
    cache := s.cache.insert key (result.map fun found => (encodeEntry found.1, found.2)) }

theorem cached_insertFetched (s : RpcSnapshotSource X) (key : LedgerKey)
    (result : Option EntryWithLiveUntil) :
    (s.insertFetched key result).cached = Function.update s.cached key (some result) := by
  rw [insertFetched, cached_mk_insert]
  cases result with
  | none => rfl
  | some found => rw [Option.map_some, Option.map_some, decodeCached_encodeEntry]

end RpcSnapshotSource

namespace Shared

/-- The thread `t` is in state `state` from now on. -/
def set (t : κ) (state : ThreadState) (s : Shared X κ) : Shared X κ :=
  { s with threads := Function.update s.threads t state }

/-- A local operation of a thread that is not in the middle of a `get`. -/
def localOp (t : κ) (op : RpcSnapshotSource X → RpcSnapshotSource X) (s : Shared X κ) :
    Shared X κ :=
  match s.threads t with
  | .idle => { s with source := op s.source }
  | _ => s

/-- One step; an event its thread is not ready for does nothing. -/
def step : Event X κ → Shared X κ → GetOutput × Shared X κ
  | .lookup t key, s =>
    match s.threads t with
    | .idle =>
      match s.source.cached key with
      | some value => (some (key, value), s)
      | none =>
        (none, { s with source := { s.source with fetches := s.source.fetches + 1 } }.set t
          (.fetching key))
    | _ => (none, s)
  | .rpc t answer, s =>
    match s.threads t with
    | .fetching key =>
      match answer with
      | .ok found => (none, s.set t (.fetched key (found.map (·.withLiveUntil))))
      | .error _ =>
        match s.source.fetchMode with
        | .strict => (none, s.set t .panicked)
        | .lenient => (none, s.set t (.fetched key none))
    | _ => (none, s)
  | .insert t, s =>
    match s.threads t with
    | .fetched key result =>
      (some (key, result), { s with source := s.source.insertFetched key result }.set t .idle)
    | _ => (none, s)
  | .setEntry t key entry liveUntil, s => (none, s.localOp t (·.setEntry key entry liveUntil))
  | .preload t entries, s => (none, s.localOp t (·.preload entries))
  | .applyChanges t changes, s => (none, s.localOp t fun source => (source.applyChanges changes).2)
  | .bumpAccountSeq t id, s => (none, s.localOp t fun source => (source.bumpAccountSeq id).2)

def machine (X : Xdr) (κ : Type) [DecidableEq κ] :
    Machine (Event X κ) (fun _ => GetOutput) (Shared X κ) :=
  ⟨step⟩

end Shared

namespace Event

/-- The steps of a `get`. -/
def IsFetch : Event X κ → Prop
  | .lookup _ _ | .rpc _ _ | .insert _ => True
  | _ => False

/-- The event is a local operation that writes the key. -/
def Writes (key : LedgerKey) : Event X κ → Prop
  | .setEntry _ k _ _ => k = key
  | .preload _ entries => ∃ entry ∈ entries, entry.1 = key
  | .applyChanges _ changes => ∃ change ∈ changes, change.readOnly = false ∧ change.key = key
  | .bumpAccountSeq _ id => .account id = key
  | _ => False

/-- When the event inserts a fetched answer, the cache holds nothing under its
key, or that answer. -/
def Undisturbed (s : Shared X κ) : Event X κ → Prop
  | .insert t =>
    match s.threads t with
    | .fetched key result => s.source.cached key = none ∨ s.source.cached key = some result
    | _ => True
  | _ => True

end Event

/-! ## One step -/

section

variable {s : Shared X κ} {key : LedgerKey}

/-- **Run alone, a `get` is the sequential one**: the same answer, and the same
source afterwards. -/
theorem run_get (client : RpcClient) {t : κ} (idle : s.threads t = .idle)
    {value : Option EntryWithLiveUntil} {after : RpcSnapshotSource X}
    (got : s.source.get client key = (.ok value, after)) :
    ∃ es : List (Event X κ), ((Shared.machine X κ).run es s).2.source = after ∧
      (((Shared.machine X κ).run es s).1.map (·.2)).getLast? = some (some (key, value)) := by
  rcases hit : s.source.cached key with _ | found
  · refine ⟨[.lookup t key, .rpc t (client s.source.fetches key), .insert t], ?_⟩
    rw [RpcSnapshotSource.get_of_not_cached hit] at got
    unfold RpcSnapshotSource.fetchFromRpc at got
    rcases answered : client s.source.fetches key with e | _ | fetched
    · cases mode : s.source.fetchMode with
      | strict =>
          simp only [answered, mode] at got
          cases got
      | lenient =>
          simp only [answered, mode] at got
          cases got
          simp [Shared.machine, Shared.step, Shared.set, idle, hit, mode,
            RpcSnapshotSource.insertFetched]
    · simp only [answered] at got
      cases got
      simp [Shared.machine, Shared.step, Shared.set, idle, hit, RpcSnapshotSource.insertFetched]
    · simp only [answered] at got
      cases got
      simp [Shared.machine, Shared.step, Shared.set, idle, hit, RpcSnapshotSource.insertFetched,
        FetchedEntry.withLiveUntil]
  · rw [RpcSnapshotSource.get_of_cached hit] at got
    cases got
    exact ⟨[.lookup t key], by simp [Shared.machine, Shared.step, idle, hit]⟩

/-- A step of a `get` keeps what the cache holds exactly when its insertion, if
it is one, is undisturbed. -/
theorem step_extends_iff {e : Event X κ} (fetch : e.IsFetch) :
    Extends s.source.cached (s.step e).2.source.cached ↔ e.Undisturbed s := by
  cases e with
  | lookup t k =>
      refine iff_of_true ?_ trivial
      simp only [Shared.step]
      cases s.threads t with
      | idle =>
          cases s.source.cached k with
          | none => exact .refl _
          | some value => exact .refl _
      | _ => exact .refl _
  | rpc t answer =>
      refine iff_of_true ?_ trivial
      simp only [Shared.step]
      cases s.threads t with
      | fetching k =>
          rcases answer with e | found
          · cases s.source.fetchMode <;> exact .refl _
          · exact .refl _
      | _ => exact .refl _
  | insert t =>
      simp only [Shared.step, Event.Undisturbed]
      cases s.threads t with
      | fetched k result =>
          simp only [Shared.set, RpcSnapshotSource.cached_insertFetched]
          constructor
          · intro kept
            rcases held : s.source.cached k with _ | value
            · exact .inl rfl
            · have same := kept k value held
              rw [Function.update_self] at same
              exact .inr same.symm
          · rintro (miss | same)
            · exact .update_of_none miss _
            · rw [← same, Function.update_eq_self]
              exact .refl _
      | _ => exact iff_of_true (.refl _) trivial
  | _ => exact fetch.elim

/-- A local operation leaves the keys it does not write as they are. -/
theorem step_local_cached {e : Event X κ} (isLocal : ¬e.IsFetch) (untouched : ¬e.Writes key) :
    (s.step e).2.source.cached key = s.source.cached key := by
  have keeps (t : κ) (op : RpcSnapshotSource X → RpcSnapshotSource X)
      (same : (op s.source).cached key = s.source.cached key) :
      (s.localOp t op).source.cached key = s.source.cached key := by
    unfold Shared.localOp
    split
    · exact same
    · rfl
  cases e with
  | setEntry t k entry liveUntil =>
      refine keeps t _ ?_
      rw [RpcSnapshotSource.cached_setEntry]
      exact Function.update_of_ne (Ne.symm untouched) _ _
  | preload t entries =>
      refine keeps t _ ?_
      exact RpcSnapshotSource.cached_preload_of_not_mem fun e mem same => untouched ⟨e, mem, same⟩
  | applyChanges t changes =>
      refine keeps t _ ?_
      rw [RpcSnapshotSource.cached_applyChanges]
      exact RpcSnapshotSource.foldl_applyTo_of_not_mem fun change mem readWrite same =>
        untouched ⟨change, mem, readWrite, same⟩
  | bumpAccountSeq t id =>
      refine keeps t _ ?_
      rw [RpcSnapshotSource.cached_bumpAccountSeq]
      exact Function.update_of_ne (Ne.symm untouched) _ _
  | _ => exact absurd trivial isLocal

/-- A `get` that returns leaves its answer in the cache. -/
theorem step_returned {e : Event X κ} {value : Option EntryWithLiveUntil}
    (returned : (s.step e).1 = some (key, value)) :
    (s.step e).2.source.cached key = some value := by
  cases e with
  | lookup t k =>
      cases idle : s.threads t with
      | idle =>
          cases hit : s.source.cached k with
          | none =>
              simp only [Shared.step, idle, hit] at returned
              cases returned
          | some found =>
              simp only [Shared.step, idle, hit] at returned ⊢
              cases returned
              exact hit
      | _ =>
          simp only [Shared.step, idle] at returned
          cases returned
  | insert t =>
      cases waiting : s.threads t with
      | fetched k result =>
          simp only [Shared.step, waiting] at returned ⊢
          cases returned
          simp only [Shared.set, RpcSnapshotSource.cached_insertFetched, Function.update_self]
      | _ =>
          simp only [Shared.step, waiting] at returned
          cases returned
  | rpc t answer =>
      have silent : (s.step (.rpc t answer)).1 = none := by
        simp only [Shared.step]
        cases s.threads t with
        | fetching k =>
            rcases answer with e | found
            · cases s.source.fetchMode <;> rfl
            · rfl
        | _ => rfl
      rw [silent] at returned
      cases returned
  | _ => cases returned

/-- A held value survives every undisturbed step that does not write its key. -/
theorem step_keeps {e : Event X κ} {value : Option EntryWithLiveUntil}
    (undisturbed : e.Undisturbed s) (untouched : ¬e.Writes key)
    (held : s.source.cached key = some value) : (s.step e).2.source.cached key = some value := by
  by_cases fetch : e.IsFetch
  · exact (step_extends_iff fetch).mpr undisturbed key value held
  · rw [step_local_cached fetch untouched, held]

end

/-! ## Runs -/

/-- No step of a `get` changes a value the cache holds. -/
def FetchesKeepCache (es : List (Event X κ)) (s : Shared X κ) : Prop :=
  (Shared.machine X κ).AllSteps
    (fun s e => e.IsFetch → Extends s.source.cached (s.step e).2.source.cached) es s

/-- After a `get` of a key has returned, and as long as nothing writes the key,
a `get` that starts returns the same value at once. -/
def GetsAgree (es : List (Event X κ)) (s : Shared X κ) : Prop :=
  ∀ before e between after, es = before ++ e :: (between ++ after) →
    ∀ key value, (((Shared.machine X κ).run before s).2.step e).1 = some (key, value) →
      (∀ e' ∈ between, ¬e'.Writes key) →
      ∀ t, ((Shared.machine X κ).run (before ++ e :: between) s).2.threads t = .idle →
        (((Shared.machine X κ).run (before ++ e :: between) s).2.step (.lookup t key)).1 =
          some (key, value)

section

variable {s : Shared X κ} {key : LedgerKey}

theorem fetchesKeepCache_iff (es : List (Event X κ)) :
    FetchesKeepCache es s ↔
      (Shared.machine X κ).AllSteps (fun s e => e.Undisturbed s) es s := by
  induction es generalizing s with
  | nil => exact Iff.rfl
  | cons e es ih =>
      refine and_congr ?_ ih
      by_cases fetch : e.IsFetch
      · show (e.IsFetch → Extends s.source.cached (s.step e).2.source.cached) ↔ e.Undisturbed s
        rw [step_extends_iff fetch]
        exact ⟨fun kept => kept fetch, fun undisturbed _ => undisturbed⟩
      · refine iff_of_true (fun isFetch => absurd isFetch fetch) ?_
        cases e with
        | insert t => exact absurd trivial fetch
        | _ => exact trivial

/-- A held value survives a run of undisturbed steps that do not write its key. -/
theorem run_keeps {es : List (Event X κ)} {value : Option EntryWithLiveUntil}
    (undisturbed : (Shared.machine X κ).AllSteps (fun s e => e.Undisturbed s) es s)
    (untouched : ∀ e ∈ es, ¬e.Writes key) (held : s.source.cached key = some value) :
    ((Shared.machine X κ).run es s).2.source.cached key = some value := by
  induction es generalizing s with
  | nil => exact held
  | cons e es ih =>
      obtain ⟨first, rest⟩ := undisturbed
      exact ih rest (fun e' mem => untouched e' (.tail _ mem))
        (step_keeps first (untouched e (.head _)) held)

theorem getsAgree {es : List (Event X κ)}
    (undisturbed : (Shared.machine X κ).AllSteps (fun s e => e.Undisturbed s) es s) :
    GetsAgree es s := by
  rintro before e between after rfl key value returned untouched t idle
  have later := ((Shared.machine X κ).allSteps_append.mp undisturbed).2.2
  have held := run_keeps ((Shared.machine X κ).allSteps_append.mp later).1 untouched
    (step_returned returned)
  have reached : ((Shared.machine X κ).run (before ++ e :: between) s).2 =
      ((Shared.machine X κ).run between
        ((Shared.machine X κ).step e ((Shared.machine X κ).run before s).2).2).2 := by
    rw [Machine.run_append, Machine.run_cons]
  rw [reached] at idle ⊢
  simp only [Shared.step, idle, held]

/-- **When fetches leave the cache alone.**  In a run of any number of threads,
no fetch changes a value the cache holds, and every `get` agrees with the ones
that returned before it since the last local write, exactly when each insertion
of a fetched answer finds nothing under its key, or that same answer. -/
theorem fetches_keep_cache_iff (es : List (Event X κ)) (s : Shared X κ) :
    FetchesKeepCache es s ∧ GetsAgree es s ↔
      (Shared.machine X κ).AllSteps (fun s e => e.Undisturbed s) es s := by
  constructor
  · rintro ⟨kept, -⟩
    exact (fetchesKeepCache_iff es).mp kept
  · intro undisturbed
    exact ⟨(fetchesKeepCache_iff es).mpr undisturbed, getsAgree undisturbed⟩

end

/-! ## A lost write -/

namespace Sample

/-- Two threads that share an empty source. -/
def sharedSource : Shared xdr Bool := ⟨.new .strict, fun _ => .idle⟩

/-- Thread `false` misses the account and asks upstream, which does not have it;
before it inserts the answer, thread `true` writes the account. -/
def lostWrite : List (Event xdr Bool) :=
  [.lookup false (.account (account 1)), .rpc false (.ok none),
    .setEntry true (.account (account 1)) (accountEntry 1 5).2.1 none, .insert false]

end Sample

open Sample in
/-- The insertion of a stale answer destroys the write: the next `get` answers
that the account does not exist. -/
theorem stale_fetch_overwrites_write :
    ¬FetchesKeepCache lostWrite sharedSource ∧
      ((Shared.machine xdr Bool).run (lostWrite.take 3) sharedSource).2.source.cached
        (.account (account 1)) = some (some ((accountEntry 1 5).2.1, none)) ∧
      ((Shared.machine xdr Bool).run (lostWrite ++ [.lookup true (.account (account 1))])
        sharedSource).1.getLast?.map (·.2) = some (some (.account (account 1), none)) := by
  refine ⟨?_, by decide, by decide⟩
  rintro ⟨-, -, -, kept, -⟩
  have same := kept trivial (.account (account 1)) (some ((accountEntry 1 5).2.1, none)) (by decide)
  exact absurd same (by decide)

end SorobanFork
