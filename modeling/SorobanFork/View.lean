import SorobanFork.Lib.Prog
import SorobanFork.Lib.Overlay
import SorobanFork.Source

/-!
# What the fork answers

The host, the fee schedule and `getLedgerEntries` read the ledger through
`SnapshotSource::get`: each is a `Reader`, run by `RpcSnapshotSource.read`.

When upstream answers each key the same way every time, the fork shows one
ledger, `RpcSnapshotSource.view`: the cache laid over the upstream answers.
Reads leave it as it is (`view_read`); each write changes it as it would change
a ledger held in full.
-/

namespace SorobanFork

open Lib

/-- A computation that reads ledger entries. -/
abbrev Reader (α : Type) : Type := Prog LedgerKey (fun _ => Option EntryWithLiveUntil) α

namespace RpcSnapshotSource

variable {X : Xdr} {client : RpcClient} {s : RpcSnapshotSource X} {k : LedgerKey}

/-- Run a reader against the source. -/
def read {α : Type} (client : RpcClient) (reader : Reader α) (s : RpcSnapshotSource X) :
    Except Panic α × RpcSnapshotSource X :=
  reader.run (get client) s

/-- A read only adds to the cache. -/
theorem extends_get : Extends s.cached (s.get client k).2.cached :=
  fun _ _ held => cached_get_of_cached held

theorem extends_read {α : Type} (reader : Reader α) :
    Extends s.cached (s.read client reader).2.cached :=
  reader.run_rel (fun s s' : RpcSnapshotSource X => Extends s.cached s'.cached)
    (fun s => .refl s.cached) (fun _ _ _ => Extends.trans) (fun _ _ => extends_get) s

theorem fetchMode_read {α : Type} (reader : Reader α) :
    (s.read client reader).2.fetchMode = s.fetchMode :=
  reader.run_rel (fun s s' : RpcSnapshotSource X => s'.fetchMode = s.fetchMode) (fun _ => rfl)
    (fun _ _ _ first second => second.trans first) (fun _ _ => fetchMode_get) s

/-- After a reader succeeded, every key it asked for is cached, and the cache
alone gives its value. -/
theorem asked_of_read {α : Type} {reader : Reader α} {value : α} {s' : RpcSnapshotSource X}
    (ran : s.read client reader = (.ok value, s')) :
    reader.value (fun key => (s'.cached key).join) = value ∧
      ∀ key ∈ reader.asked (fun key => (s'.cached key).join),
        s'.cached key = some (s'.cached key).join := by
  refine Prog.run_ok_asked (fun t key found => t.cached key = some found) ?_ ?_ ran ?_
  · intro key t found t' got
    rw [cached_get_of_ok got, Function.update_self]
  · intro key t found t' key' found' got held
    have kept : (t.get client key).2.cached key' = some found' := cached_get_of_cached held
    rwa [got] at kept
  · intro key found held
    rw [held, Option.join_some]

/-- A source that has come to hold more gives the same value. -/
theorem asked_of_read_extends {α : Type} {reader : Reader α} {value : α}
    {s' t : RpcSnapshotSource X} (ran : s.read client reader = (.ok value, s'))
    (later : Extends s'.cached t.cached) :
    reader.value (fun key => (t.cached key).join) = value ∧
      ∀ key ∈ reader.asked (fun key => (t.cached key).join),
        t.cached key = some (t.cached key).join := by
  obtain ⟨valued, asked⟩ := asked_of_read ran
  have kept (key : LedgerKey) (mem : key ∈ reader.asked fun key => (s'.cached key).join) :
      t.cached key = some (s'.cached key).join := later key _ (asked key mem)
  have agree (key : LedgerKey) (mem : key ∈ reader.asked fun key => (s'.cached key).join) :
      (s'.cached key).join = (t.cached key).join := by
    rw [kept key mem, Option.join_some]
  rw [← reader.value_congr agree, ← reader.asked_congr agree]
  exact ⟨valued, fun key mem => by rw [kept key mem, Option.join_some]⟩

/-- A reader that asks for cached keys only is answered from the cache. -/
theorem read_of_asked_cached {α : Type} {reader : Reader α}
    (held : ∀ key ∈ reader.asked (fun key => (s.cached key).join),
      s.cached key = some (s.cached key).join) :
    s.read client reader = (.ok (reader.value fun key => (s.cached key).join), s) := by
  unfold read
  induction reader with
  | ret a => rfl
  | ask key next ih =>
      rw [Prog.run_ask_ok (get_of_cached (held key (.head _)))]
      exact ih _ fun key mem => held key (.tail _ mem)

/-! ## A fixed upstream -/

end RpcSnapshotSource

/-- What upstream answers to each key, when it always answers the same. -/
abbrev Upstream : Type := LedgerKey → Except ForkError (Option FetchedEntry)

def FetchedEntry.withLiveUntil (fetched : FetchedEntry) : EntryWithLiveUntil :=
  (fetched.entry, fetched.liveUntil)

/-- Some fetch of the key gives the entry. -/
def RpcClient.Gave (client : RpcClient) (key : LedgerKey) (found : EntryWithLiveUntil) : Prop :=
  ∃ n fetched, client n key = .ok (some fetched) ∧ found = fetched.withLiveUntil

/-- The client answers each key as `upstream` does, at every fetch. -/
def RpcClient.Fixed (client : RpcClient) (upstream : Upstream) : Prop :=
  ∀ n key, client n key = upstream key

/-- The answers a fork with an empty cache gives; `none` where it panics. -/
def Upstream.shown (upstream : Upstream) (mode : FetchMode) (key : LedgerKey) :
    Option (Option EntryWithLiveUntil) :=
  match upstream key with
  | .ok fetched => some (fetched.map (·.withLiveUntil))
  | .error _ =>
    match mode with
    | .strict => none
    | .lenient => some none

namespace RpcSnapshotSource

variable {X : Xdr} {client : RpcClient} {upstream : Upstream} {s : RpcSnapshotSource X}
  {k : LedgerKey}

/-- The ledger the fork shows: the cache over the upstream answers; `none`
where a read would panic. -/
def view (upstream : Upstream) (s : RpcSnapshotSource X) :
    LedgerKey → Option (Option EntryWithLiveUntil) :=
  overlay s.cached (upstream.shown s.fetchMode)

theorem answer_fetchFromRpc (fixed : client.Fixed upstream) :
    (s.fetchFromRpc client k).1.toOption = upstream.shown s.fetchMode k := by
  unfold fetchFromRpc Upstream.shown
  rw [fixed]
  rcases upstream k with e | _ | fetched
  · cases s.fetchMode <;> rfl
  · rfl
  · rfl

/-- `get` answers what the view shows. -/
theorem answer_eq_view (s : RpcSnapshotSource X) (k : LedgerKey) (fixed : client.Fixed upstream) :
    (s.answer client k).toOption = s.view upstream k := by
  rcases hit : s.cached k with _ | value
  · rw [answer, get_of_not_cached hit, answer_fetchFromRpc fixed, view, overlay_of_none hit]
  · rw [answer, get_of_cached hit, view, overlay_of_some hit]
    rfl

/-- A read leaves the view as it is. -/
theorem view_get (fixed : client.Fixed upstream) :
    (s.get client k).2.view upstream = s.view upstream := by
  have shown := answer_eq_view s k fixed
  rw [view, fetchMode_get, cached_get]
  rcases answered : s.answer client k with e | value
  · rfl
  · rw [answered] at shown
    exact overlay_remember shown.symm

theorem view_read {α : Type} (fixed : client.Fixed upstream) (reader : Reader α) :
    (s.read client reader).2.view upstream = s.view upstream :=
  reader.run_rel (fun s s' : RpcSnapshotSource X => s'.view upstream = s.view upstream)
    (fun _ => rfl) (fun _ _ _ first second => second.trans first) (fun _ _ => view_get fixed) s

/-- A `get` of a key that the view shows answers it, and leaves the view. -/
theorem get_of_view {value : Option EntryWithLiveUntil} (fixed : client.Fixed upstream)
    (shows : s.view upstream k = some value) :
    ∃ s', s.get client k = (.ok value, s') ∧ s'.view upstream = s.view upstream := by
  have answered := answer_eq_view s k fixed
  have kept := view_get (s := s) (k := k) fixed
  rw [shows, answer] at answered
  rcases got : s.get client k with ⟨e | found, s'⟩
  · rw [got] at answered
    cases answered
  · rw [got] at answered kept
    rw [Option.some.inj answered]
    exact ⟨s', rfl, kept⟩

/-- A reader that asks only for keys that the view shows never panics, and
computes its value from what the view shows. -/
theorem read_eq_value {α : Type} (fixed : client.Fixed upstream)
    {ledger : LedgerKey → Option EntryWithLiveUntil} (reader : Reader α)
    (shows : ∀ key ∈ reader.asked ledger, s.view upstream key = some (ledger key)) :
    (s.read client reader).1 = .ok (reader.value ledger) := by
  unfold read
  induction reader generalizing s with
  | ret a => rfl
  | ask key next ih =>
      obtain ⟨s', got, kept⟩ := get_of_view fixed (shows key (.head _))
      rw [Prog.run_ask_ok got]
      exact ih _ fun other mem => by rw [kept, shows other (.tail _ mem)]

/-- A reader that meets a total view never panics, and computes its value from
the view alone. -/
theorem read_eq_eval {α : Type} (fixed : client.Fixed upstream)
    {ledger : LedgerKey → Option EntryWithLiveUntil}
    (total : ∀ key, s.view upstream key = some (ledger key)) (reader : Reader α) :
    (s.read client reader).1 = .ok (reader.value ledger) := by
  rw [← Prog.eval_eq_value]
  refine (reader.run_eq_eval (fun key => .ok (ledger key))
    (fun s => ∀ key, s.view upstream key = some (ledger key)) ?_ total).1
  intro key s total
  obtain ⟨s', got, kept⟩ := get_of_view fixed (total key)
  rw [got]
  exact ⟨rfl, fun other => by rw [kept, total other]⟩

/-- A reader that succeeded computed its value from the view; where the view has
a gap, which it did not meet, any answer will do. -/
theorem value_of_read {α : Type} {s' : RpcSnapshotSource X} {reader : Reader α} {value : α}
    (fixed : client.Fixed upstream) (ran : s.read client reader = (.ok value, s')) :
    reader.value (fun key => (s.view upstream key).join) = value := by
  refine reader.run_ok_eq_value _ (fun t => t.view upstream = s.view upstream) ?_ ran rfl
  intro key t found t' same got
  have answered := answer_eq_view t key fixed
  have kept := view_get (s := t) (k := key) fixed
  rw [answer, got] at answered
  rw [got] at kept
  rw [same] at answered kept
  refine ⟨?_, kept⟩
  rw [← answered]
  rfl

/-! ### The entries held -/

/-- The entries a source holds. -/
def held (s : RpcSnapshotSource X) (key : LedgerKey) : Option EntryWithLiveUntil :=
  (s.cached key).join

theorem held_of_update {s' : RpcSnapshotSource X} {key : LedgerKey}
    {value : Option EntryWithLiveUntil}
    (updated : s'.cached = Function.update s.cached key (some value)) :
    s'.held = Function.update s.held key value := by
  funext k
  unfold held
  rw [updated]
  by_cases same : k = key
  · rw [same, Function.update_self, Function.update_self, Option.join_some]
  · rw [Function.update_of_ne same, Function.update_of_ne same]

/-- A reader leaves the entries that are held. -/
theorem held_of_extends {s' : RpcSnapshotSource X} {found : EntryWithLiveUntil}
    (extends_ : Extends s.cached s'.cached) (present : s.held k = some found) :
    s'.held k = some found := by
  have cached : s.cached k = some (some found) := Option.join_eq_some_iff.mp present
  rw [held, extends_ k _ cached, Option.join_some]

/-- A `get` only adds an entry that upstream gave. -/
theorem held_get {key asked : LedgerKey} {found : EntryWithLiveUntil}
    (present : (s.get client asked).2.held key = some found) :
    s.held key = some found ∨ client.Gave key found := by
  rcases hit : s.cached asked with _ | value
  · have after := s.cached_get client asked
    rcases answered : s.answer client asked with e | value
    · rw [answered] at after
      rw [held, after] at present
      exact .inl present
    · rw [answered] at after
      rw [held_of_update after] at present
      by_cases same : key = asked
      · subst same
        rw [Function.update_self] at present
        rw [answer, get_of_not_cached hit, fetchFromRpc] at answered
        rcases fetched : client s.fetches key with e | _ | fetched'
        · cases mode : s.fetchMode with
          | strict => simp [fetched, mode] at answered
          | lenient => simp [fetched, mode, present] at answered
        · simp [fetched, present] at answered
        · simp only [fetched, present] at answered
          cases answered
          exact .inr ⟨_, _, fetched, rfl⟩
      · rw [Function.update_of_ne same] at present
        exact .inl present
  · rw [get_of_cached hit] at present
    exact .inl present

/-- Reading only adds entries that upstream gave. -/
theorem held_read {α : Type} (reader : Reader α) {key : LedgerKey} {found : EntryWithLiveUntil}
    (present : (s.read client reader).2.held key = some found) :
    s.held key = some found ∨ client.Gave key found := by
  refine reader.run_rel (fun s s' : RpcSnapshotSource X => ∀ found, s'.held key = some found →
    s.held key = some found ∨ client.Gave key found) (fun _ _ => .inl) ?_ ?_ s found present
  · intro s₁ s₂ s₃ first second found present
    rcases second found present with before | gave
    · exact first found before
    · exact .inr gave
  · exact fun _ _ _ => held_get

/-! ### Writes -/

theorem cached_preload_of_not_mem {entries : List (LedgerKey × LedgerEntry × Option UInt32)}
    (notMem : ∀ e ∈ entries, e.1 ≠ k) : (s.preload entries).cached k = s.cached k := by
  rw [cached_preload]
  exact writeAll_of_not_mem Prod.fst (fun e => some e.2) notMem

/-- Pre-loading entries that agree on a key caches what they agree on. -/
theorem cached_preload_of_mem {entries : List (LedgerKey × LedgerEntry × Option UInt32)}
    {found : EntryWithLiveUntil} (mem : (k, found) ∈ entries)
    (agree : ∀ found', (k, found') ∈ entries → found' = found) :
    (s.preload entries).cached k = some (some found) := by
  rw [cached_preload]
  refine writeAll_of_mem Prod.fst (fun e => some e.2) ⟨_, mem, rfl⟩ ?_
  rintro ⟨key, found'⟩ mem' rfl
  rw [agree found' mem']

/-- What pre-loading caches for one of its keys does not depend on the cache. -/
theorem cached_preload_eq_of_mem {t : RpcSnapshotSource X}
    {entries : List (LedgerKey × LedgerEntry × Option UInt32)} (mem : ∃ e ∈ entries, e.1 = k) :
    (s.preload entries).cached k = (t.preload entries).cached k := by
  rw [cached_preload, cached_preload]
  exact writeAll_eq_of_mem Prod.fst (fun e => some e.2) mem

/-- The keys of pre-loaded entries are cached as present. -/
theorem exists_cached_preload {entries : List (LedgerKey × LedgerEntry × Option UInt32)}
    (mem : ∃ e ∈ entries, e.1 = k) : ∃ found, (s.preload entries).cached k = some (some found) := by
  obtain ⟨e, -, -, written⟩ := exists_writeAll_of_mem Prod.fst
    (fun e : LedgerKey × EntryWithLiveUntil => some e.2) (m := s.cached) mem
  rw [cached_preload]
  exact ⟨e.2, written⟩

theorem view_setEntry (key : LedgerKey) (entry : LedgerEntry) (liveUntil : Option UInt32) :
    (s.setEntry key entry liveUntil).view upstream =
      Function.update (s.view upstream) key (some (some (entry, liveUntil))) := by
  rw [view, cached_setEntry, overlay_update]
  rfl

theorem fetchMode_applyChanges (changes : List (LedgerEntryChange X)) :
    (s.applyChanges changes).2.fetchMode = s.fetchMode := rfl

/-- What every read-write change of a batch keeps, the batch keeps. -/
theorem foldl_applyTo_induction {β : Type} {wrap : Option EntryWithLiveUntil → β}
    {motive : (LedgerKey → β) → Prop} {changes : List (LedgerEntryChange X)}
    {m : LedgerKey → β} (start : motive m)
    (step : ∀ m, ∀ change ∈ changes, change.readOnly = false → motive m →
      motive (Function.update m change.key (wrap change.newValue))) :
    motive (changes.foldl (LedgerEntryChange.applyTo wrap) m) := by
  induction changes generalizing m with
  | nil => exact start
  | cons change changes ih =>
      rw [List.foldl_cons]
      refine ih ?_ fun m c mem => step m c (.tail _ mem)
      unfold LedgerEntryChange.applyTo
      split
      · exact start
      · rename_i readWrite
        exact step m change (.head _) (Bool.eq_false_iff.mpr readWrite) start

/-- A translation of maps that keeps updates keeps batches. -/
theorem foldl_applyTo_map {β γ : Type} {wrap : Option EntryWithLiveUntil → β}
    {wrap' : Option EntryWithLiveUntil → γ} (φ : (LedgerKey → β) → LedgerKey → γ)
    (update : ∀ m key value,
      φ (Function.update m key (wrap value)) = Function.update (φ m) key (wrap' value))
    (changes : List (LedgerEntryChange X)) (m : LedgerKey → β) :
    φ (changes.foldl (LedgerEntryChange.applyTo wrap) m) =
      changes.foldl (LedgerEntryChange.applyTo wrap') (φ m) := by
  induction changes generalizing m with
  | nil => rfl
  | cons change changes ih =>
      rw [List.foldl_cons, List.foldl_cons, ih]
      congr 1
      unfold LedgerEntryChange.applyTo
      split
      · rfl
      · exact update _ _ _

theorem view_applyChanges (changes : List (LedgerEntryChange X)) :
    (s.applyChanges changes).2.view upstream =
      changes.foldl (LedgerEntryChange.applyTo some) (s.view upstream) := by
  rw [view, cached_applyChanges, fetchMode_applyChanges, view]
  exact foldl_applyTo_map (fun m => overlay m _) (fun _ _ _ => overlay_update) changes _

theorem fetchMode_bumpAccountSeq (id : AccountId) :
    (s.bumpAccountSeq id).2.fetchMode = s.fetchMode := by
  unfold bumpAccountSeq
  rcases found : s.cache.lookup (.account id) with _ | _ | ⟨bytes, liveUntil⟩
  · simp only [found]
  · simp only [found]
  · cases data : (decodeEntry bytes).data <;> simp only [found, data]

/-- Bumping an account whose key is cached advances the account the view shows. -/
theorem view_bumpAccountSeq {id : AccountId} {value : Option EntryWithLiveUntil}
    (held : s.cached (.account id) = some value) :
    (s.bumpAccountSeq id).2.view upstream =
      Function.update (s.view upstream) (.account id)
        (some (value.map fun found => (found.1.bumpSeq, found.2))) := by
  rw [view, cached_bumpAccountSeq, fetchMode_bumpAccountSeq, held, Option.map_some,
    overlay_update]
  rfl

theorem foldl_applyTo_of_not_mem {β : Type} {wrap : Option EntryWithLiveUntil → β}
    {changes : List (LedgerEntryChange X)} {m : LedgerKey → β}
    (notMem : ∀ change ∈ changes, change.readOnly = false → change.key ≠ k) :
    changes.foldl (LedgerEntryChange.applyTo wrap) m k = m k := by
  refine foldl_applyTo_induction (motive := fun m' => m' k = m k) rfl ?_
  intro m' change mem readWrite kept
  rw [Function.update_of_ne (notMem change mem readWrite).symm, kept]

/-- The entries held after a batch of changes. -/
theorem held_applyChanges (changes : List (LedgerEntryChange X)) :
    (s.applyChanges changes).2.held = changes.foldl (LedgerEntryChange.applyTo id) s.held := by
  have joined := foldl_applyTo_map (fun m key => (m key).join)
    (fun m key value => Function.comp_update Option.join m key (some value)) changes s.cached
  rw [← cached_applyChanges] at joined
  exact joined

/-- A batch of changes leaves the keys it has no read-write change for. -/
theorem cached_applyChanges_of_not_mem {changes : List (LedgerEntryChange X)}
    (notMem : ∀ change ∈ changes, change.readOnly = false → change.key ≠ k) :
    (s.applyChanges changes).2.cached k = s.cached k := by
  rw [cached_applyChanges, foldl_applyTo_of_not_mem notMem]

/-- In a batch that has at most one change for each key, a read-write change
decides what the cache holds for its key. -/
theorem cached_applyChanges_of_mem {changes : List (LedgerEntryChange X)}
    {change : LedgerEntryChange X} (distinct : (changes.map (·.key)).Nodup)
    (mem : change ∈ changes) (readWrite : change.readOnly = false) :
    (s.applyChanges changes).2.cached change.key = some change.newValue := by
  rw [cached_applyChanges]
  generalize s.cached = m
  induction changes generalizing m with
  | nil => cases mem
  | cons c changes ih =>
      rw [List.map_cons, List.nodup_cons] at distinct
      obtain ⟨fresh, distinct⟩ := distinct
      rw [List.foldl_cons]
      rcases List.mem_cons.mp mem with rfl | mem
      · have untouched : ∀ c ∈ changes, c.readOnly = false → c.key ≠ change.key :=
          fun c mem _ same => fresh (List.mem_map.mpr ⟨c, mem, same⟩)
        rw [foldl_applyTo_of_not_mem untouched, LedgerEntryChange.applyTo, readWrite,
          if_neg Bool.false_ne_true, Function.update_self]
      · exact ih distinct mem _

/-- A batch of changes keeps every key the cache holds. -/
theorem isSome_cached_applyChanges (changes : List (LedgerEntryChange X))
    (held : (s.cached k).isSome) : ((s.applyChanges changes).2.cached k).isSome := by
  rw [cached_applyChanges]
  refine foldl_applyTo_induction (motive := fun m => Option.isSome (m k)) held ?_
  intro m change _ _ held
  by_cases same : k = change.key
  · rw [same, Function.update_self]
    rfl
  · rwa [Function.update_of_ne same]

/-- A batch of changes leaves the keys of its read-write changes in the cache. -/
theorem isSome_cached_applyChanges_of_mem {changes : List (LedgerEntryChange X)}
    {change : LedgerEntryChange X}
    (mem : change ∈ changes) (readWrite : change.readOnly = false) :
    ((s.applyChanges changes).2.cached change.key).isSome := by
  obtain ⟨before, after, rfl⟩ := List.append_of_mem mem
  have held : ((s.applyChanges (before ++ [change])).2.cached change.key).isSome := by
    rw [cached_applyChanges, List.foldl_append, List.foldl_cons,
      List.foldl_nil, LedgerEntryChange.applyTo, readWrite, if_neg Bool.false_ne_true,
      Function.update_self]
    rfl
  have more := isSome_cached_applyChanges after held
  rw [cached_applyChanges, cached_applyChanges,
    ← List.foldl_append] at more
  rw [cached_applyChanges]
  simpa using more

/-- A bump keeps every key the cache holds. -/
theorem isSome_cached_bumpAccountSeq {id : AccountId} (held : (s.cached k).isSome) :
    ((s.bumpAccountSeq id).2.cached k).isSome := by
  rw [cached_bumpAccountSeq]
  by_cases same : k = .account id
  · rwa [same, Function.update_self, Option.isSome_map, ← same]
  · rwa [Function.update_of_ne same]

/-- Bumping an account whose key is not cached does nothing. -/
theorem bumpAccountSeq_of_not_cached {id : AccountId} (miss : s.cached (.account id) = none) :
    s.bumpAccountSeq id = (none, s) := by
  rw [cached, Option.map_eq_none_iff] at miss
  simp only [bumpAccountSeq, miss]

/-- Bumping an account that is cached, or that upstream does not have, advances
the account the view shows. -/
theorem view_bumpAccountSeq_of_known {id : AccountId}
    (known : (s.cached (.account id)).isSome ∨
      upstream.shown s.fetchMode (.account id) = some none) :
    (s.bumpAccountSeq id).2.view upstream =
      Function.update (s.view upstream) (.account id)
        ((s.view upstream (.account id)).map (·.map fun found => (found.1.bumpSeq, found.2))) := by
  rcases hit : s.cached (.account id) with _ | value
  · have absent : s.view upstream (.account id) = some none := by
      rcases known with held | absent
      · rw [hit] at held
        cases held
      · rw [view, overlay_of_none hit, absent]
    rw [bumpAccountSeq_of_not_cached hit, absent, Option.map_some, Option.map_none, ← absent,
      Function.update_eq_self]
  · rw [view_bumpAccountSeq hit, view, overlay_of_some hit, Option.map_some]

end RpcSnapshotSource

end SorobanFork
