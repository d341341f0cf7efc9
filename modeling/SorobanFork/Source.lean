import Mathlib.Algebra.Group.Nat.Defs
import Mathlib.Data.List.AList
import Mathlib.Logic.Function.Basic
import SorobanFork.Codec
import SorobanFork.Error

/-!
# The snapshot source (`source.rs`)

`RpcSnapshotSource` is a cache over an upstream RPC: `get` answers from the
cache and asks upstream on a miss, remembering what it was told, absence
included.  `setEntry`, `bumpAccountSeq`, `applyChanges` and `preload` write to
the cache directly.

`RpcSnapshotSource.cached` is the cache as a reader sees it (`none`: not asked
yet, `some none`: known to be absent); every operation has a lemma that says
what it does to `cached`.  Proofs about the fork use these lemmas, so that
neither the codec nor the representation of the cache occurs in them.
-/

namespace SorobanFork

/-- A panic of the thread that runs the modelled code. -/
inductive Panic : Type
  /-- "RPC fetch #{count} failed (strict): {error}" -/
  | strictFetch (count : UInt32) (error : ForkError)
deriving DecidableEq

inductive FetchMode : Type
  | strict
  | lenient
deriving DecidableEq

structure FetchedEntry : Type where
  entry : LedgerEntry
  liveUntil : Option UInt32
deriving DecidableEq

/-- The upstream RPC: what `RpcClient::fetch_entry` returns at each fetch.  The
answer to a key may depend on how many fetches came before it. -/
abbrev RpcClient : Type := Nat → LedgerKey → Except ForkError (Option FetchedEntry)

/-- The TTL part of a ledger change (`LedgerEntryLiveUntilChange`). -/
structure LiveUntilChange : Type where
  oldLiveUntilLedger : UInt32
  newLiveUntilLedger : UInt32
deriving DecidableEq

/-- One change reported by the host after an invocation.  Key and value are
serialised by the host, so they parse. -/
structure LedgerEntryChange (X : Xdr) : Type where
  readOnly : Bool
  encodedKey : X.ledgerKey.Encoded
  encodedNewValue : Option X.ledgerEntry.Encoded
  ttlChange : Option LiveUntilChange

/-- XDR bytes of an entry, and its live-until ledger. -/
abbrev CachedBytes (X : Xdr) : Type := X.ledgerEntry.Encoded × Option UInt32

/-- `BTreeMap<LedgerKey, Option<CachedBytes>>`. -/
abbrev Cache (X : Xdr) : Type := AList fun _ : LedgerKey => Option (CachedBytes X)

structure RpcSnapshotSource (X : Xdr) : Type where
  cache : Cache X
  /-- Fetches attempted so far; `fetch_count` reads it through an `AtomicU32`. -/
  fetches : Nat
  fetchMode : FetchMode

/-- `u32::saturating_add`. -/
def saturatingAdd32 (a b : UInt32) : UInt32 :=
  if a.toNat + b.toNat < 2 ^ 32 then a + b else UInt32.ofNat (2 ^ 32 - 1)

/-- `u64::saturating_add`. -/
def saturatingAdd64 (a b : UInt64) : UInt64 :=
  if a.toNat + b.toNat < 2 ^ 64 then a + b else UInt64.ofNat (2 ^ 64 - 1)

/-- A count that saturates. -/
theorem saturatingAdd32_ofNat_one (n : Nat) :
    saturatingAdd32 (UInt32.ofNat (min n (2 ^ 32 - 1))) 1 =
      UInt32.ofNat (min (n + 1) (2 ^ 32 - 1)) := by
  have size : (UInt32.ofNat (min n (2 ^ 32 - 1))).toNat = min n (2 ^ 32 - 1) :=
    UInt32.toNat_ofNat_of_lt' (by rw [UInt32.size]; omega)
  unfold saturatingAdd32
  rw [size, show (1 : UInt32).toNat = 1 from rfl]
  split
  · rw [show min (n + 1) (2 ^ 32 - 1) = min n (2 ^ 32 - 1) + 1 by omega, UInt32.ofNat_add]
    rfl
  · rw [show min (n + 1) (2 ^ 32 - 1) = 2 ^ 32 - 1 by omega]

namespace RpcSnapshotSource

variable {X : Xdr}

def new (fetchMode : FetchMode) : RpcSnapshotSource X where
  cache := ∅
  fetches := 0
  fetchMode := fetchMode

def fetchCount (s : RpcSnapshotSource X) : UInt32 := UInt32.ofNat s.fetches

def encodeEntry (entry : LedgerEntry) : X.ledgerEntry.Encoded := X.ledgerEntry.encode entry

def decodeEntry (bytes : X.ledgerEntry.Encoded) : LedgerEntry := Codec.decode bytes

/-- A cached value, decoded. -/
def decodeCached (value : CachedBytes X) : EntryWithLiveUntil := (decodeEntry value.1, value.2)

def preload (entries : List (LedgerKey × LedgerEntry × Option UInt32))
    (s : RpcSnapshotSource X) : RpcSnapshotSource X :=
  { s with
    cache := entries.foldl
      (fun cache (key, entry, liveUntil) => cache.insert key (some (encodeEntry entry, liveUntil)))
      s.cache }

def setEntry (key : LedgerKey) (entry : LedgerEntry) (liveUntil : Option UInt32)
    (s : RpcSnapshotSource X) : RpcSnapshotSource X :=
  { s with cache := s.cache.insert key (some (encodeEntry entry, liveUntil)) }

/-- Bump the `seq_num` of a cached account; `none` if the key is not cached, is
known to be absent, or does not hold an account. -/
def bumpAccountSeq (accountId : AccountId) (s : RpcSnapshotSource X) :
    Option Int64 × RpcSnapshotSource X :=
  let key := LedgerKey.account accountId
  match s.cache.lookup key with
  | none => (none, s)
  | some none => (none, s)
  | some (some (bytes, liveUntil)) =>
    let entry := decodeEntry bytes
    match entry.data with
    | .account account =>
      -- `wrapping_add`: `Int64` addition wraps
      let next := account.seqNum + 1
      let entry := { entry with data := .account { account with seqNum := next } }
      (some next, { s with cache := s.cache.insert key (some (encodeEntry entry, liveUntil)) })
    | _ => (none, s)

/-- One iteration of the loop of `apply_changes`. -/
def applyChange (acc : Cache X × UInt32) (change : LedgerEntryChange X) : Cache X × UInt32 :=
  if change.readOnly then acc
  else
    let key := Codec.decode change.encodedKey
    match change.encodedNewValue with
    | some bytes =>
      let liveUntil := change.ttlChange.map (·.newLiveUntilLedger)
      (acc.1.insert key (some (bytes, liveUntil)), saturatingAdd32 acc.2 1)
    | none => (acc.1.insert key none, saturatingAdd32 acc.2 1)

def applyChanges (changes : List (LedgerEntryChange X)) (s : RpcSnapshotSource X) :
    UInt32 × RpcSnapshotSource X :=
  let (cache, applied) := changes.foldl applyChange (s.cache, 0)
  (applied, { s with cache := cache })

/-- Export the positive entries for persistence. -/
def entries (s : RpcSnapshotSource X) : List (LedgerKey × LedgerEntry × Option UInt32) :=
  s.cache.entries.filterMap fun ⟨key, val⟩ =>
    val.map fun value => (key, decodeCached value)

/-- Fetch a key from upstream and remember the answer. -/
def fetchFromRpc (client : RpcClient) (key : LedgerKey) (s : RpcSnapshotSource X) :
    Except Panic (Option EntryWithLiveUntil) × RpcSnapshotSource X :=
  let s' := { s with fetches := s.fetches + 1 }
  let insert (result : Option EntryWithLiveUntil) : RpcSnapshotSource X :=
    { s' with
      cache := s'.cache.insert key (result.map fun found => (encodeEntry found.1, found.2)) }
  match client s.fetches key with
  | .ok (some fetched) =>
    let result := some (fetched.entry, fetched.liveUntil)
    (.ok result, insert result)
  | .ok none => (.ok none, insert none)
  | .error e =>
    match s.fetchMode with
    | .strict => (.error (.strictFetch s'.fetchCount e), s')
    | .lenient => (.ok none, insert none)

/-- `SnapshotSource::get`. -/
def get (client : RpcClient) (key : LedgerKey) (s : RpcSnapshotSource X) :
    Except Panic (Option EntryWithLiveUntil) × RpcSnapshotSource X :=
  match s.cache.lookup key with
  | some value => (.ok (value.map decodeCached), s)
  | none => fetchFromRpc client key s

/-! ## The cache as a reader sees it -/

/-- What the cache holds for a key: `none` if the key was never asked for or
written, `some none` if it is known to be absent. -/
def cached (s : RpcSnapshotSource X) (key : LedgerKey) : Option (Option EntryWithLiveUntil) :=
  (s.cache.lookup key).map (·.map decodeCached)

end RpcSnapshotSource

namespace LedgerEntryChange

variable {X : Xdr}

/-- The key a change is about. -/
def key (change : LedgerEntryChange X) : LedgerKey := Codec.decode change.encodedKey

/-- What a read-write change leaves under its key. -/
def newValue (change : LedgerEntryChange X) : Option EntryWithLiveUntil :=
  change.encodedNewValue.map fun bytes =>
    RpcSnapshotSource.decodeCached (bytes, change.ttlChange.map (·.newLiveUntilLedger))

/-- Apply a change to a map that gives each key a value in `β`; `wrap` makes a
`β` of the new value. -/
def applyTo {β : Type} (wrap : Option EntryWithLiveUntil → β) (m : LedgerKey → β)
    (change : LedgerEntryChange X) : LedgerKey → β :=
  if change.readOnly then m else Function.update m change.key (wrap change.newValue)

end LedgerEntryChange

/-- The same entry with its sequence number advanced by one, if it is an account. -/
def LedgerEntry.bumpSeq (entry : LedgerEntry) : LedgerEntry :=
  match entry.data with
  | .account account =>
    { entry with data := .account { account with seqNum := account.seqNum + 1 } }
  | _ => entry

namespace RpcSnapshotSource

variable {X : Xdr} {client : RpcClient} {s : RpcSnapshotSource X} {k : LedgerKey}

@[simp] theorem decodeEntry_encodeEntry (entry : LedgerEntry) :
    decodeEntry (encodeEntry entry : X.ledgerEntry.Encoded) = entry :=
  Codec.decode_encode entry

@[simp] theorem decodeCached_encodeEntry (entry : LedgerEntry) (liveUntil : Option UInt32) :
    decodeCached ((encodeEntry entry, liveUntil) : CachedBytes X) = (entry, liveUntil) := by
  rw [decodeCached, decodeEntry_encodeEntry]

theorem cached_mk_insert (cache : Cache X) (n : Nat) (mode : FetchMode) (key : LedgerKey)
    (value : Option (CachedBytes X)) :
    (⟨cache.insert key value, n, mode⟩ : RpcSnapshotSource X).cached =
      Function.update (⟨cache, n, mode⟩ : RpcSnapshotSource X).cached key
        (some (value.map decodeCached)) := by
  funext k
  by_cases same : k = key
  · subst same
    rw [Function.update_self, cached, AList.lookup_insert, Option.map_some]
  · rw [Function.update_of_ne same, cached, AList.lookup_insert_ne same, cached]

@[simp] theorem cached_setEntry (key : LedgerKey) (entry : LedgerEntry)
    (liveUntil : Option UInt32) :
    (s.setEntry key entry liveUntil).cached =
      Function.update s.cached key (some (some (entry, liveUntil))) := by
  rw [setEntry, cached_mk_insert, Option.map_some, decodeCached_encodeEntry]

theorem cached_preload (entries : List (LedgerKey × LedgerEntry × Option UInt32)) :
    (s.preload entries).cached =
      entries.foldl (fun m (key, entry, liveUntil) =>
        Function.update m key (some (some (entry, liveUntil)))) s.cached := by
  obtain ⟨cache, n, mode⟩ := s
  simp only [preload]
  induction entries generalizing cache with
  | nil => rfl
  | cons e entries ih =>
      rw [List.foldl_cons, ih, List.foldl_cons, cached_mk_insert, Option.map_some,
        decodeCached_encodeEntry]

/-- The cache after a batch of changes: the read-write ones, in order. -/
theorem cached_applyChanges (changes : List (LedgerEntryChange X)) :
    (s.applyChanges changes).2.cached =
      changes.foldl (LedgerEntryChange.applyTo some) s.cached := by
  obtain ⟨cache, n, mode⟩ := s
  simp only [applyChanges]
  generalize (0 : UInt32) = applied
  induction changes generalizing cache applied with
  | nil => rfl
  | cons change changes ih =>
      rw [List.foldl_cons, List.foldl_cons]
      by_cases ro : change.readOnly
      · rw [applyChange, if_pos ro, LedgerEntryChange.applyTo, if_pos ro]
        exact ih cache applied
      · rw [applyChange, if_neg ro, LedgerEntryChange.applyTo, if_neg ro]
        cases new : change.encodedNewValue with
        | none =>
            simp only [ih, cached_mk_insert, LedgerEntryChange.newValue, new, Option.map_none,
              LedgerEntryChange.key]
        | some bytes =>
            simp only [ih, cached_mk_insert, LedgerEntryChange.newValue, new, Option.map_some,
              LedgerEntryChange.key]

/-- The number of changes applied: the read-write ones, counted with saturation. -/
theorem applyChanges_count (changes : List (LedgerEntryChange X)) :
    (s.applyChanges changes).1 =
      changes.foldl (fun n change => if change.readOnly then n else saturatingAdd32 n 1) 0 := by
  simp only [applyChanges]
  generalize (0 : UInt32) = applied
  generalize s.cache = cache
  induction changes generalizing cache applied with
  | nil => rfl
  | cons change changes ih =>
      rw [List.foldl_cons, List.foldl_cons]
      by_cases ro : change.readOnly
      · rw [applyChange, if_pos ro, if_pos ro]
        exact ih applied cache
      · rw [applyChange, if_neg ro, if_neg ro]
        cases change.encodedNewValue <;> exact ih _ _

/-- A bump rewrites the account's own key only, and only if it is cached as present. -/
theorem cached_bumpAccountSeq (id : AccountId) :
    (s.bumpAccountSeq id).2.cached =
      Function.update s.cached (.account id)
        ((s.cached (.account id)).map (·.map fun found => (found.1.bumpSeq, found.2))) := by
  obtain ⟨cache, n, mode⟩ := s
  generalize before : (⟨cache, n, mode⟩ : RpcSnapshotSource X).cached = m
  have held : m (.account id) = (cache.lookup (.account id)).map (·.map decodeCached) := by
    rw [← before, cached]
  unfold bumpAccountSeq
  rcases found : cache.lookup (.account id) with _ | _ | ⟨bytes, liveUntil⟩
  · rw [found, Option.map_none] at held
    simp only [found, before, held, Option.map_none]
    exact Function.eq_update_self_iff.mpr held
  · rw [found, Option.map_some, Option.map_none] at held
    simp only [found, before, held, Option.map_some, Option.map_none]
    exact Function.eq_update_self_iff.mpr held
  · rw [found] at held
    simp only [Option.map_some, decodeCached] at held
    cases data : (decodeEntry bytes).data with
    | account account =>
        simp only [found, data, cached_mk_insert, before, held, Option.map_some,
          decodeCached_encodeEntry, LedgerEntry.bumpSeq]
    | _ =>
        simp only [found, data, before, held, Option.map_some, LedgerEntry.bumpSeq]
        exact Function.eq_update_self_iff.mpr held

/-! ### Reads -/

/-- What `get` answers: the cached value, or what upstream answers now. -/
def answer (client : RpcClient) (key : LedgerKey) (s : RpcSnapshotSource X) :
    Except Panic (Option EntryWithLiveUntil) :=
  (s.get client key).1

theorem get_of_cached {value : Option EntryWithLiveUntil} (hit : s.cached k = some value) :
    s.get client k = (.ok value, s) := by
  unfold cached at hit
  rcases found : s.cache.lookup k with _ | stored
  · simp [found] at hit
  · rw [found, Option.map_some, Option.some.injEq] at hit
    simp only [get, found, hit]

theorem get_of_not_cached (miss : s.cached k = none) :
    s.get client k = s.fetchFromRpc client k := by
  unfold cached at miss
  simp only [get, Option.map_eq_none_iff.mp miss]

/-- A fetch remembers the answer it returns; a panicking fetch remembers nothing. -/
theorem cached_fetchFromRpc :
    (s.fetchFromRpc client k).2.cached =
      match (s.fetchFromRpc client k).1 with
      | .ok value => Function.update s.cached k (some value)
      | .error _ => s.cached := by
  unfold fetchFromRpc
  rcases client s.fetches k with e | _ | fetched
  · cases s.fetchMode with
    | strict => rfl
    | lenient => simp only [cached_mk_insert, Option.map_none]; rfl
  · simp only [cached_mk_insert, Option.map_none]; rfl
  · simp only [cached_mk_insert, Option.map_some, decodeCached_encodeEntry]; rfl

/-- A read remembers the answer it returns. -/
theorem cached_get (s : RpcSnapshotSource X) (client : RpcClient) (k : LedgerKey) :
    (s.get client k).2.cached =
      match s.answer client k with
      | .ok value => Function.update s.cached k (some value)
      | .error _ => s.cached := by
  unfold answer
  rcases hit : s.cached k with _ | value
  · rw [get_of_not_cached hit, cached_fetchFromRpc]
  · rw [get_of_cached hit]
    simp only [← hit, Function.update_eq_self]

theorem cached_get_of_ok {value : Option EntryWithLiveUntil} {s' : RpcSnapshotSource X}
    (got : s.get client k = (.ok value, s')) :
    s'.cached = Function.update s.cached k (some value) := by
  have after := s.cached_get client k
  simpa only [answer, got] using after

theorem fetchMode_get : (s.get client k).2.fetchMode = s.fetchMode := by
  unfold get fetchFromRpc
  cases s.cache.lookup k with
  | some value => rfl
  | none =>
      rcases client s.fetches k with e | _ | fetched
      · cases s.fetchMode <;> simp
      · rfl
      · rfl

/-- A read never changes what the cache holds: it may only learn a new key. -/
theorem cached_get_of_cached {key : LedgerKey} {value : Option EntryWithLiveUntil}
    (held : s.cached key = some value) : (s.get client k).2.cached key = some value := by
  rw [cached_get]
  split
  · rename_i answered
    by_cases same : key = k
    · subst same
      rw [answer, get_of_cached held, Except.ok.injEq] at answered
      rw [Function.update_self, answered]
    · rw [Function.update_of_ne same, held]
  · exact held

end RpcSnapshotSource

end SorobanFork
