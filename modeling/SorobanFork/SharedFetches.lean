import Mathlib.Algebra.BigOperators.Group.Finset.Basic
import Mathlib.Algebra.Order.BigOperators.Group.Finset
import Mathlib.Data.Fintype.BigOperators
import SorobanFork.Drift
import SorobanFork.Shared

/-!
# Fetches of a shared source

A thread goes upstream for the keys that it misses.  Two threads that miss a key at
the same time both fetch it; but a thread that has gone for a key finds it in the
cache from then on, whatever the others do.

* `Settled.step`: once a thread has gone for a key, or the key is cached, the thread
  does not go for it again.
* `fetched_once_each`: in every run no thread goes twice for a key, and the fetches
  are those of the threads; so there is at most one for each thread and each key.
-/

namespace SorobanFork

open Lib

section

variable {X : Xdr} {κ : Type} [DecidableEq κ]

namespace Event

/-- The key that the thread goes upstream for in this step. -/
def miss (t : κ) (s : Shared X κ) : Event X κ → Option LedgerKey
  | .lookup t' key =>
    match s.threads t', s.source.cached key with
    | .idle, none => if t' = t then some key else none
    | _, _ => none
  | _ => none

/-- The key that the step looks up. -/
def lookedUp : Event X κ → Option LedgerKey
  | .lookup _ key => some key
  | _ => none

end Event

/-- The keys that a thread goes upstream for in a run. -/
def misses (t : κ) : List (Event X κ) → Shared X κ → List LedgerKey
  | [], _ => []
  | e :: es, s => (e.miss t s).toList ++ misses t es (s.step e).2

/-- The thread will not go for this key: it is cached, or the thread is on its way
with the answer, or it has panicked. -/
def Settled (t : κ) (key : LedgerKey) (s : Shared X κ) : Prop :=
  (s.source.cached key).isSome ∨
    match s.threads t with
    | .idle => False
    | .fetching k => k = key
    | .fetched k _ => k = key
    | .panicked => True

variable {s : Shared X κ} {t u : κ} {key : LedgerKey} {e : Event X κ}

theorem miss_eq_some_iff :
    e.miss t s = some key ↔
      e = .lookup t key ∧ s.threads t = .idle ∧ s.source.cached key = none := by
  constructor
  · intro missed
    cases e with
    | lookup u k =>
        simp only [Event.miss] at missed
        split at missed
        case h_1 idle absent =>
          split at missed
          case isTrue same =>
            cases missed
            cases same
            exact ⟨rfl, idle, absent⟩
          case isFalse => cases missed
        case h_2 => cases missed
    | _ => cases missed
  · rintro ⟨rfl, idle, absent⟩
    simp only [Event.miss, idle, absent, if_true]

/-- No step takes a key out of the cache. -/
theorem isSome_cached_step (e : Event X κ) (held : (s.source.cached key).isSome) :
    ((s.step e).2.source.cached key).isSome := by
  have local_ (t : κ) (op : RpcSnapshotSource X → RpcSnapshotSource X)
      (keeps : ((op s.source).cached key).isSome) :
      ((s.localOp t op).source.cached key).isSome := by
    unfold Shared.localOp
    split
    · exact keeps
    · exact held
  cases e with
  | lookup t k =>
      simp only [Shared.step]
      cases s.threads t with
      | idle => cases s.source.cached k <;> exact held
      | _ => exact held
  | rpc t answer =>
      simp only [Shared.step]
      cases s.threads t with
      | fetching k =>
          rcases answer with e | found
          · cases s.source.fetchMode <;> exact held
          · exact held
      | _ => exact held
  | insert t =>
      simp only [Shared.step]
      cases s.threads t with
      | fetched k result =>
          simp only [Shared.set, RpcSnapshotSource.cached_insertFetched]
          by_cases same : key = k
          · rw [same, Function.update_self]
            rfl
          · rwa [Function.update_of_ne same]
      | _ => exact held
  | setEntry t k entry liveUntil =>
      refine local_ t _ ?_
      rw [RpcSnapshotSource.cached_setEntry]
      by_cases same : key = k
      · rw [same, Function.update_self]
        rfl
      · rwa [Function.update_of_ne same]
  | preload t entries =>
      refine local_ t _ ?_
      by_cases mem : ∃ entry ∈ entries, entry.1 = key
      · obtain ⟨found, cached⟩ := RpcSnapshotSource.exists_cached_preload (s := s.source) mem
        rw [cached]
        rfl
      · rwa [RpcSnapshotSource.cached_preload_of_not_mem fun entry memEntry same =>
          mem ⟨entry, memEntry, same⟩]
  | applyChanges t changes =>
      exact local_ t _ (RpcSnapshotSource.isSome_cached_applyChanges changes held)
  | bumpAccountSeq t id => exact local_ t _ (RpcSnapshotSource.isSome_cached_bumpAccountSeq held)

omit [DecidableEq κ] in
/-- A local operation changes neither the threads nor the count of fetches. -/
theorem frame_localOp (t : κ) {op : RpcSnapshotSource X → RpcSnapshotSource X}
    (quiet : (op s.source).fetches = s.source.fetches) :
    (s.localOp t op).threads = s.threads ∧ (s.localOp t op).source.fetches = s.source.fetches := by
  unfold Shared.localOp
  split
  · exact ⟨rfl, quiet⟩
  · exact ⟨rfl, rfl⟩

/-- **One step**: the threads stay as they are, or one of them goes for a key that it
missed, gets an answer or panics, or inserts its answer. -/
theorem threads_step (e : Event X κ) :
    ((s.step e).2.threads = s.threads ∧ (s.step e).2.source.fetches = s.source.fetches) ∨
    (∃ u key, s.threads u = .idle ∧ s.source.cached key = none ∧ e = .lookup u key ∧
      (s.step e).2.threads = Function.update s.threads u (.fetching key) ∧
      (s.step e).2.source.fetches = s.source.fetches + 1) ∨
    (∃ u key state, s.threads u = .fetching key ∧
      (state = .panicked ∨ ∃ result, state = .fetched key result) ∧
      (s.step e).2.threads = Function.update s.threads u state ∧
      (s.step e).2.source.fetches = s.source.fetches) ∨
    (∃ u key result, s.threads u = .fetched key result ∧
      ((s.step e).2.source.cached key).isSome ∧
      (s.step e).2.threads = Function.update s.threads u .idle ∧
      (s.step e).2.source.fetches = s.source.fetches) := by
  cases e with
  | lookup u k =>
      cases at_u : s.threads u with
      | idle =>
          cases hit : s.source.cached k with
          | some value =>
              left
              simp only [Shared.step, at_u, hit, and_self]
          | none =>
              right; left
              refine ⟨u, k, at_u, hit, rfl, ?_, ?_⟩
              · simp only [Shared.step, at_u, hit, Shared.set]
              · simp only [Shared.step, at_u, hit, Shared.set]
      | _ =>
          left
          simp only [Shared.step, at_u, and_self]
  | rpc u answer =>
      cases at_u : s.threads u with
      | fetching k =>
          right; right; left
          rcases answer with e | found
          · cases mode : s.source.fetchMode with
            | strict =>
                refine ⟨u, k, .panicked, at_u, .inl rfl, ?_, ?_⟩
                · simp only [Shared.step, at_u, mode, Shared.set]
                · simp only [Shared.step, at_u, mode, Shared.set]
            | lenient =>
                refine ⟨u, k, .fetched k none, at_u, .inr ⟨none, rfl⟩, ?_, ?_⟩
                · simp only [Shared.step, at_u, mode, Shared.set]
                · simp only [Shared.step, at_u, mode, Shared.set]
          · refine ⟨u, k, _, at_u, .inr ⟨found.map (·.withLiveUntil), rfl⟩, ?_, ?_⟩
            · simp only [Shared.step, at_u, Shared.set]
            · simp only [Shared.step, at_u, Shared.set]
      | _ =>
          left
          simp only [Shared.step, at_u, and_self]
  | insert u =>
      cases at_u : s.threads u with
      | fetched k result =>
          right; right; right
          refine ⟨u, k, result, at_u, ?_, ?_, ?_⟩
          · simp only [Shared.step, at_u, Shared.set, RpcSnapshotSource.cached_insertFetched,
              Function.update_self, Option.isSome_some]
          · simp only [Shared.step, at_u, Shared.set]
          · simp only [Shared.step, at_u, Shared.set]
            rfl
      | _ =>
          left
          simp only [Shared.step, at_u, and_self]
  | setEntry u k entry liveUntil => exact .inl (frame_localOp u rfl)
  | preload u entries => exact .inl (frame_localOp u rfl)
  | applyChanges u changes => exact .inl (frame_localOp u rfl)
  | bumpAccountSeq u id =>
      exact .inl (frame_localOp u (RpcSnapshotSource.fetches_bumpAccountSeq id s.source))

/-! ## One thread -/

/-- **Settled for good.** -/
theorem Settled.step (settled : Settled t key s) (e : Event X κ) : Settled t key (s.step e).2 := by
  rcases settled with held | onItsWay
  · exact .inl (isSome_cached_step e held)
  rcases threads_step (s := s) e with ⟨same, -⟩ | ⟨u, k, idle, -, -, moved, -⟩ |
    ⟨u, k, state, fetching, answered, moved, -⟩ | ⟨u, k, result, fetched, held, moved, -⟩
  · exact .inr (by rwa [same])
  -- the other threads leave `t` as it is, and its own step leads it on
  · by_cases own : t = u
    · rw [own, idle] at onItsWay
      exact onItsWay.elim
    · exact .inr (by rwa [moved, Function.update_of_ne own])
  · by_cases own : t = u
    · rw [own, fetching] at onItsWay
      refine .inr ?_
      rw [moved, own, Function.update_self]
      rcases answered with rfl | ⟨result, rfl⟩
      · trivial
      · exact onItsWay
    · exact .inr (by rwa [moved, Function.update_of_ne own])
  · by_cases own : t = u
    · rw [own, fetched] at onItsWay
      exact .inl (onItsWay ▸ held)
    · exact .inr (by rwa [moved, Function.update_of_ne own])

/-- A thread that goes for a key is not settled, and is so from then on. -/
theorem settled_of_miss (missed : e.miss t s = some key) :
    ¬Settled t key s ∧ Settled t key (s.step e).2 := by
  obtain ⟨rfl, idle, absent⟩ := miss_eq_some_iff.mp missed
  constructor
  · rintro (held | onItsWay)
    · rw [absent] at held
      cases held
    · rw [idle] at onItsWay
      exact onItsWay
  · refine .inr ?_
    simp only [Shared.step, idle, absent, Shared.set, Function.update_self]

theorem not_settled_of_mem {es : List (Event X κ)} (mem : key ∈ misses t es s) :
    ¬Settled t key s := by
  induction es generalizing s with
  | nil => cases mem
  | cons e es ih =>
      rcases List.mem_append.mp mem with here | later
      · exact (settled_of_miss (Option.mem_toList.mp here)).1
      · exact fun settled => ih later (settled.step e)

theorem nodup_misses (t : κ) (es : List (Event X κ)) (s : Shared X κ) : (misses t es s).Nodup := by
  induction es generalizing s with
  | nil => exact List.nodup_nil
  | cons e es ih =>
      rw [misses]
      rcases missed : e.miss t s with _ | key
      · exact ih _
      · exact List.nodup_cons.mpr
          ⟨fun again => not_settled_of_mem again (settled_of_miss missed).2, ih _⟩

/-- A thread goes for keys that are looked up, and were not cached. -/
theorem mem_misses {es : List (Event X κ)} (mem : key ∈ misses t es s) :
    key ∈ es.filterMap Event.lookedUp ∧ s.source.cached key = none := by
  constructor
  · induction es generalizing s with
    | nil => cases mem
    | cons e es ih =>
        rcases List.mem_append.mp mem with here | later
        · obtain ⟨rfl, -⟩ := miss_eq_some_iff.mp (Option.mem_toList.mp here)
          exact .head _
        · have rest := ih later
          rw [List.filterMap_cons]
          split
          · exact rest
          · exact .tail _ rest
  · by_contra held
    exact not_settled_of_mem mem (.inl (Option.isSome_iff_ne_none.mpr held))

/-! ## All threads -/

section

variable [Fintype κ]

/-- A step fetches for the thread that goes upstream in it, if there is one. -/
theorem fetches_step (e : Event X κ) (s : Shared X κ) :
    (s.step e).2.source.fetches = s.source.fetches + ∑ t, (e.miss t s).toList.length := by
  by_cases missed : ∃ t key, e.miss t s = some key
  · obtain ⟨t, key, missed⟩ := missed
    obtain ⟨rfl, idle, absent⟩ := miss_eq_some_iff.mp missed
    have others (u : κ) (_ : u ∈ Finset.univ) (other : u ≠ t) :
        ((Event.lookup t key).miss u s).toList.length = 0 := by
      rcases missed' : (Event.lookup t key).miss u s with _ | key'
      · rfl
      · obtain ⟨same, -⟩ := miss_eq_some_iff.mp missed'
        cases same
        exact absurd rfl other
    rw [Finset.sum_eq_single t others fun absent => absurd (Finset.mem_univ t) absent, missed]
    simp only [Shared.step, idle, absent, Shared.set]
    rfl
  · have none (t : κ) : e.miss t s = none := by
      by_contra some
      obtain ⟨key, missed'⟩ := Option.ne_none_iff_exists'.mp some
      exact missed ⟨t, key, missed'⟩
    have zero (t : κ) (_ : t ∈ Finset.univ) : (e.miss t s).toList.length = 0 := by
      rw [none t]
      rfl
    rw [Finset.sum_eq_zero zero, Nat.add_zero]
    rcases threads_step (s := s) e with ⟨-, same⟩ | ⟨u, key, idle, absent, rfl, -⟩ |
      ⟨-, -, -, -, -, -, same⟩ | ⟨-, -, -, -, -, -, same⟩
    · exact same
    · exact absurd ⟨u, key, miss_eq_some_iff.mpr ⟨rfl, idle, absent⟩⟩ missed
    · exact same
    · exact same

theorem fetches_run (es : List (Event X κ)) (s : Shared X κ) :
    ((Shared.machine X κ).run es s).2.source.fetches =
      s.source.fetches + ∑ t, (misses t es s).length := by
  induction es generalizing s with
  | nil =>
      have none : ∑ t : κ, (misses t [] s).length = 0 := Finset.sum_eq_zero fun _ _ => rfl
      rw [none]
      rfl
  | cons e es ih =>
      have first : ((Shared.machine X κ).step e s).2.source.fetches =
          s.source.fetches + ∑ t, (e.miss t s).toList.length := fetches_step e s
      have split (t : κ) : (misses t (e :: es) s).length =
          (e.miss t s).toList.length + (misses t es (s.step e).2).length := List.length_append
      rw [Machine.run_cons, ih, first, Finset.sum_congr rfl fun t _ => split t,
        Finset.sum_add_distrib, Nat.add_assoc]
      rfl

/-- **A fetch for each thread and each key.**  In every run of threads that share a
source no thread goes upstream twice for a key, nor for one that was cached; every
fetch is that of a thread.  So there are no more fetches than threads times the keys
that were looked up. -/
theorem fetched_once_each (es : List (Event X κ)) (s : Shared X κ) :
    (∀ t, (misses t es s).Nodup ∧ ∀ key ∈ misses t es s, s.source.cached key = none) ∧
    ((Shared.machine X κ).run es s).2.source.fetches =
      s.source.fetches + ∑ t, (misses t es s).length ∧
    ((Shared.machine X κ).run es s).2.source.fetches ≤
      s.source.fetches + Fintype.card κ * (es.filterMap Event.lookedUp).toFinset.card := by
  refine ⟨fun t => ⟨nodup_misses t es s, fun key mem => (mem_misses mem).2⟩, fetches_run es s, ?_⟩
  have few (t : κ) : (misses t es s).length ≤ (es.filterMap Event.lookedUp).toFinset.card := by
    rw [← List.toFinset_card_of_nodup (nodup_misses t es s)]
    refine Finset.card_le_card fun key mem => ?_
    exact List.mem_toFinset.mpr (mem_misses (List.mem_toFinset.mp mem)).1
  rw [fetches_run]
  apply Nat.add_le_add_left
  calc ∑ t, (misses t es s).length
    _ ≤ ∑ _ : κ, (es.filterMap Event.lookedUp).toFinset.card := Finset.sum_le_sum fun t _ => few t
    _ = Fintype.card κ * (es.filterMap Event.lookedUp).toFinset.card := by
        rw [Finset.sum_const_nat fun _ _ => rfl, Finset.card_univ]

end

end

end SorobanFork
