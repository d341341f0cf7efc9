import SorobanFork.Coherence
import SorobanFork.Rpc
import SorobanFork.Server.Concurrent

/-!
# A fork of a fork

A second fork may take a running server as its upstream.  Its client splits the
keys into batches and decodes what the server's handler encoded: the server sends
the data inside each present entry, and the client builds an entry around it.

The server answers a batch with what its source holds (`serve_getLedgerEntries`),
the client reads that back (`decodeBatch_readReply`), and over all batches it
gets each present key's entry in order (`run_fetchBatches_ok`).  It needs at least
one attempt for that, a worker that is alive, requests that the server's HTTP layer
takes, and a server whose own upstream answers what is not cached; otherwise it gets
an error (`run_fetchBatches_error`).
-/

namespace SorobanFork

open Lib

section

variable {X : Xdr}

/-! ## One exchange -/

/-- The JSON of the client's requests, and the texts of what it cannot use. -/
structure RpcJson (wire : Wire X) : Type where
  /-- `json!({ "keys": encoded_keys })`. -/
  ledgerEntriesParams : List String → wire.Json
  /-- The status and the body of the response when the server's HTTP layer does
  not take the request; by default it takes up to 2 MB. -/
  refused : List String → Option String
  errorText : JsonRpcError → String
  otherShape : String
  connectionClosed : String

/-- The entry of a response as the client parses it. -/
def EntryResult.ofItem (item : LedgerEntryItem) : EntryResult where
  key := item.key
  xdr := item.xdr
  lastModifiedLedgerSeq := item.lastModifiedLedgerSeq
  liveUntilLedgerSeq := item.liveUntilLedgerSeq

/-- What the client makes of a reply of the server. -/
def readReply {wire : Wire X} (json : RpcJson wire) : RpcReply → Attempt GetLedgerEntriesResult
  | .result (.ledgerEntries body) =>
    .ok ⟨some ⟨some (body.entries.map .ofItem), body.latestLedger⟩, none⟩
  | .result _ => .error (.retry (.transport json.otherShape))
  | .error e => .ok ⟨none, some (json.errorText e)⟩
  | .noReply => .error (.retry (.transport json.connectionClosed))

/-- One attempt at a `getLedgerEntries` request, against a server that serves
nobody else meanwhile. -/
def attemptOn (world : World X) (wire : Wire X) (json : RpcJson wire) (keys : List String)
    (server : Server X) : Except Empty (Attempt GetLedgerEntriesResult) × Server X :=
  match json.refused keys with
  | some text => (.ok (.error (.fatal (.transport text))), server)
  | none =>
    let (reply, server') :=
      serve world wire "getLedgerEntries" (json.ledgerEntriesParams keys) server
    (.ok (readReply json reply), server')

/-- JSON keeps the keys of a request. -/
def RpcJson.Lossless {wire : Wire X} (json : RpcJson wire) : Prop :=
  ∀ keys, wire.getLedgerEntriesParams (json.ledgerEntriesParams keys) = .ok ⟨keys⟩

/-- Base64 keeps the buffer. -/
def Wire.Lossless (wire : Wire X) (bytes : X.Buf) : Prop :=
  wire.base64Decode (wire.base64Encode bytes) = .ok bytes

/-! ## What a fork shows -/

/-- The entry that a client gets for one that is held: the wrapper's extension
is not sent. -/
def FetchedEntry.ofHeld (found : EntryWithLiveUntil) : FetchedEntry where
  entry := { found.1 with ext := .v0 }
  liveUntil := found.2

/-- What a client of the server gets for a key. -/
def Server.shown (server : Server X) (key : LedgerKey) : Option FetchedEntry :=
  (server.holds key).map .ofHeld

namespace RpcSnapshotSource

/-- The keys that are not cached, each once, in the order in which they come first. -/
def missing (s : RpcSnapshotSource X) : List LedgerKey → List LedgerKey
  | [] => []
  | key :: keys =>
    if (s.cached key).isSome then s.missing keys
    else key :: (s.missing keys).filter (· ≠ key)

/-- In strict mode, upstream answers each missing key when it is asked for it; another
answer would end the worker. -/
def Answered (client : RpcClient) (keys : List LedgerKey) (s : RpcSnapshotSource X) : Prop :=
  s.fetchMode = .strict →
    ∀ i key, (s.missing keys)[i]? = some key → ∃ found, client (s.fetches + i) key = .ok found

variable {client : RpcClient} {s s₁ s' : RpcSnapshotSource X} {key : LedgerKey}
  {keys : List LedgerKey}

theorem missing_cons_of_hit (hit : (s.cached key).isSome) :
    s.missing (key :: keys) = s.missing keys := by
  rw [missing, if_pos hit]

theorem missing_cons_of_miss (miss : s.cached key = none) :
    s.missing (key :: keys) = key :: (s.missing keys).filter (· ≠ key) := by
  rw [missing, if_neg (by rw [miss, Option.isSome_none]; exact Bool.false_ne_true)]

/-- What is asked for first is missing first. -/
theorem missing_prefix (s : RpcSnapshotSource X) (keys later : List LedgerKey) :
    s.missing keys <+: s.missing (keys ++ later) := by
  induction keys with
  | nil => exact List.nil_prefix
  | cons key keys ih =>
      rw [List.cons_append]
      rcases found : s.cached key with _ | value
      · rw [missing_cons_of_miss found, missing_cons_of_miss found, List.prefix_cons_inj]
        exact ih.filter _
      · have hit : (s.cached key).isSome := by
          rw [found]
          rfl
        rw [missing_cons_of_hit hit, missing_cons_of_hit hit]
        exact ih

/-- A key that was cached meanwhile is missing no more. -/
theorem missing_of_update {value : Option EntryWithLiveUntil}
    (learnt : s₁.cached = Function.update s.cached key (some value)) :
    s₁.missing keys = (s.missing keys).filter (· ≠ key) := by
  induction keys with
  | nil => rfl
  | cons k keys ih =>
      by_cases same : k = key
      · subst same
        have hit : (s₁.cached k).isSome := by
          rw [learnt, Function.update_self]
          rfl
        rw [missing_cons_of_hit hit, ih]
        rcases found : s.cached k with _ | value
        · rw [missing_cons_of_miss found, List.filter_cons_of_neg (by simp), List.filter_filter]
          simp only [Bool.and_self]
        · rw [missing_cons_of_hit (by rw [found]; rfl)]
      · have kept : s₁.cached k = s.cached k := by
          rw [learnt, Function.update_of_ne same]
        rcases found : s.cached k with _ | value
        · rw [missing_cons_of_miss (kept.trans found), missing_cons_of_miss found, ih,
            List.filter_cons_of_pos (by simpa using same), List.filter_filter, List.filter_filter]
          simp only [Bool.and_comm]
        · have hit : (s.cached k).isSome := by
            rw [found]
            rfl
          rw [missing_cons_of_hit (kept ▸ hit), missing_cons_of_hit hit, ih]

/-- A key that is missing is fetched, or the fetch fails in strict mode. -/
theorem get_of_miss (client : RpcClient) (miss : s.cached key = none) :
    (∃ value s₁, s.get client key = (.ok value, s₁) ∧ s₁.fetches = s.fetches + 1 ∧
        (s.fetchMode = .strict → ∃ found, client s.fetches key = .ok found)) ∨
      ∃ panic s₁, s.get client key = (.error panic, s₁) ∧ s.fetchMode = .strict ∧
        ¬∃ found, client s.fetches key = .ok found := by
  rw [get_of_not_cached miss, fetchFromRpc]
  rcases fetched : client s.fetches key with e | _ | found
  · cases mode : s.fetchMode with
    | strict =>
        refine .inr ⟨_, _, rfl, rfl, ?_⟩
        rintro ⟨found, answered⟩
        cases answered
    | lenient =>
        refine .inl ⟨_, _, rfl, rfl, fun strict => ?_⟩
        cases strict
  · exact .inl ⟨_, _, rfl, rfl, fun _ => ⟨_, rfl⟩⟩
  · exact .inl ⟨_, _, rfl, rfl, fun _ => ⟨_, rfl⟩⟩

theorem answered_nil : s.Answered client [] := by
  intro _ i key at_i
  cases at_i

theorem Answered.of_append {later : List LedgerKey}
    (answered : s.Answered client (keys ++ later)) : s.Answered client keys := by
  intro strict i key at_i
  obtain ⟨more, whole⟩ := s.missing_prefix keys later
  refine answered strict i key ?_
  rw [← whole, List.getElem?_append_left (List.getElem?_eq_some_iff.mp at_i).1, at_i]

theorem answered_cons_of_hit (hit : (s.cached key).isSome) :
    s.Answered client (key :: keys) ↔ s.Answered client keys := by
  rw [Answered, Answered, missing_cons_of_hit hit]

/-- The first missing key is asked for now, and the others from then on. -/
theorem answered_cons_of_miss {value : Option EntryWithLiveUntil} (miss : s.cached key = none)
    (got : s.get client key = (.ok value, s₁)) (counted : s₁.fetches = s.fetches + 1)
    (answered : s.fetchMode = .strict → ∃ found, client s.fetches key = .ok found) :
    s.Answered client (key :: keys) ↔ s₁.Answered client keys := by
  have sameMode : (s.get client key).2.fetchMode = s.fetchMode := fetchMode_get
  rw [got] at sameMode
  rw [Answered, Answered, sameMode, missing_cons_of_miss miss,
    missing_of_update (cached_get_of_ok got), counted]
  refine forall_congr' fun strict => ⟨fun all i k at_i => ?_, fun rest i k at_i => ?_⟩
  · have found := all (i + 1) k (by rwa [List.getElem?_cons_succ])
    rwa [Nat.add_assoc, Nat.add_comm 1 i]
  · cases i with
    | zero =>
        obtain rfl := Option.some.inj at_i
        exact answered strict
    | succ i =>
        rw [List.getElem?_cons_succ] at at_i
        have found := rest i k at_i
        rwa [Nat.add_assoc, Nat.add_comm 1 i] at found

end RpcSnapshotSource

namespace Server

/-- Base64 keeps what the server sends of the keys. -/
structure Readable (world : World X) (wire : Wire X) (keys : List LedgerKey) (server : Server X) :
    Prop where
  keysKept : ∀ key ∈ keys, wire.Lossless (X.ledgerKey.toXdr key)
  heldKept : ∀ key ∈ keys, ∀ found, server.holds key = some found →
    wire.Lossless (X.ledgerEntryData.toXdr found.1.data)
  fetchedKept : ∀ key ∈ keys, ∀ n fetched, world.client n key = .ok (some fetched) →
    wire.Lossless (X.ledgerEntryData.toXdr fetched.entry.data)

/-- The server's own upstream answers each key that is not cached when the server asks
for it, unless a failed fetch may be served as absent. -/
def Answered (world : World X) (server : Server X) (keys : List LedgerKey) : Prop :=
  server.worker.env.source.Answered world.client keys

/-- `server'` is the server after it was asked for the keys and for nothing else. -/
structure Looked (world : World X) (server server' : Server X) (keys : List LedgerKey) : Prop where
  alive : server'.alive = server.alive
  reads : ForkedEnv.OnlyReads world.client server.worker.env server'.worker.env
  cached : ∀ key ∈ keys,
    server'.worker.env.source.cached key = some (server'.holds key)
  added : ∀ key found, server'.holds key = some found →
    server.holds key = some found ∨ world.client.Gave key found

variable {world : World X} {wire : Wire X} {server server' server₁ server₂ : Server X}
  {keys keys₁ keys₂ : List LedgerKey}

namespace Looked

/-- A key that was asked for keeps what it showed. -/
theorem shown_eq (first : Looked world server server₁ keys)
    (later : Looked world server₁ server₂ keys₂) {key : LedgerKey} (mem : key ∈ keys) :
    server₂.shown key = server₁.shown key := by
  have same : server₂.holds key = server₁.holds key := by
    rw [holds, later.reads.extends_cached key _ (first.cached key mem), Option.join_some]
  rw [shown, same, shown]

theorem nil : Looked world server server [] where
  alive := rfl
  reads := .refl _
  cached _ mem := nomatch mem
  added _ _ := .inl

theorem append (first : Looked world server server₁ keys₁)
    (second : Looked world server₁ server₂ keys₂) :
    Looked world server server₂ (keys₁ ++ keys₂) where
  alive := second.alive.trans first.alive
  reads := first.reads.trans second.reads
  cached key mem := by
    rcases List.mem_append.mp mem with mem | mem
    · have kept := second.reads.extends_cached key _ (first.cached key mem)
      rw [holds, kept, Option.join_some]
    · exact second.cached key mem
  added key found present := by
    rcases second.added key found present with before | gave
    · exact first.added key found before
    · exact .inr gave

/-- With a fixed upstream, the keys show what the fork showed all along. -/
theorem view_eq (looked : Looked world server server' keys) {upstream : Upstream}
    (fixed : world.client.Fixed upstream) {key : LedgerKey} (mem : key ∈ keys) :
    server.worker.env.source.view upstream key = some (server'.holds key) := by
  rw [← looked.reads.view upstream fixed, RpcSnapshotSource.view,
    overlay_of_some (looked.cached key mem)]

end Looked

theorem Readable.sublist (readable : server.Readable world wire keys)
    (part : ∀ key ∈ keys₁, key ∈ keys) : server.Readable world wire keys₁ where
  keysKept key mem := readable.keysKept key (part key mem)
  heldKept key mem := readable.heldKept key (part key mem)
  fetchedKept key mem := readable.fetchedKept key (part key mem)

variable {batch : List LedgerKey} {rest : List (List LedgerKey)}

theorem Readable.firstBatch (readable : server.Readable world wire (batch :: rest).flatten) :
    server.Readable world wire batch :=
  readable.sublist fun _ mem => List.mem_flatten_of_mem (.head _) mem

theorem Readable.laterBatches (readable : server.Readable world wire (batch :: rest).flatten) :
    server.Readable world wire rest.flatten :=
  readable.sublist fun _ mem => List.mem_append_right batch mem

/-! ## One batch, on the server -/

/-- Looking keeps the server readable. -/
theorem Looked.readable (looked : Looked world server server' keys₁)
    (before : server.Readable world wire keys) : server'.Readable world wire keys where
  keysKept := before.keysKept
  heldKept key mem found present := by
    rcases looked.added key found present with held | ⟨n, fetched, answered, rfl⟩
    · exact before.heldKept key mem found held
    · exact before.fetchedKept key mem n fetched answered
  fetchedKept := before.fetchedKept

/-- **Reading.**  The keys are read if and only if the missing ones are answered; then
the answers to more keys are those that are left. -/
theorem read_resolveLedgerEntries {client : RpcClient} (keys : List LedgerKey)
    (s : RpcSnapshotSource X) :
    (s.Answered client keys ∧ ∃ values s', s.read client (resolveLedgerEntries keys) =
        (.ok values, s') ∧
        ∀ later, s.Answered client (keys ++ later) ↔ s'.Answered client later) ∨
      ¬s.Answered client keys ∧ ∃ panic s', s.read client (resolveLedgerEntries keys) =
        (.error panic, s') := by
  induction keys generalizing s with
  | nil => exact .inl ⟨RpcSnapshotSource.answered_nil, [], s, rfl, fun _ => .rfl⟩
  | cons key keys ih =>
      -- the first key is got, and then there are the others
      have continues {value : Option EntryWithLiveUntil} {s₁ : RpcSnapshotSource X}
          (got : s.get client key = (.ok value, s₁))
          (same : ∀ later, s.Answered client (key :: later) ↔ s₁.Answered client later) :
          (s.Answered client (key :: keys) ∧ ∃ values s',
              s.read client (resolveLedgerEntries (key :: keys)) = (.ok values, s') ∧
              ∀ later, s.Answered client (key :: keys ++ later) ↔ s'.Answered client later) ∨
            ¬s.Answered client (key :: keys) ∧ ∃ panic s',
              s.read client (resolveLedgerEntries (key :: keys)) = (.error panic, s') := by
        rcases ih s₁ with ⟨answered, values, s', read, more⟩ | ⟨failed, panic, s', read⟩
        · refine .inl ⟨(same keys).mpr answered,
            (value.map fun entry => (key, entry)) :: values, s', ?_, fun later => ?_⟩
          · rw [RpcSnapshotSource.read, resolveLedgerEntries, Prog.run_ask_ok got,
              Prog.run_bind_ok read]
            rfl
          · exact (same (keys ++ later)).trans (more later)
        · refine .inr ⟨mt (same keys).mp failed, panic, s', ?_⟩
          rw [RpcSnapshotSource.read, resolveLedgerEntries, Prog.run_ask_ok got,
            Prog.run_bind_error read]
      rcases hit : s.cached key with _ | value
      · rcases RpcSnapshotSource.get_of_miss client hit with
          ⟨value, s₁, got, counted, answered⟩ | ⟨panic, s₁, got, strict, failed⟩
        · exact continues got fun later =>
            RpcSnapshotSource.answered_cons_of_miss hit got counted answered
        · refine .inr ⟨fun all => failed ?_, panic, s₁, ?_⟩
          · refine all strict 0 key ?_
            rw [RpcSnapshotSource.missing_cons_of_miss hit]
            rfl
          · rw [RpcSnapshotSource.read, resolveLedgerEntries, Prog.run_ask_error got]
      · exact continues (RpcSnapshotSource.get_of_cached hit) fun later =>
          RpcSnapshotSource.answered_cons_of_hit (by rw [hit]; rfl)

/-- The worker answers the keys by reading them. -/
theorem worker_step_getLedgerEntries {source : RpcSnapshotSource X}
    {out : Except Panic (List (Option (LedgerKey × EntryWithLiveUntil)))}
    (read : server.worker.env.source.read world.client (resolveLedgerEntries keys) =
      (out, source)) :
    server.worker.step world (.getLedgerEntries keys) =
      (out.map fun values => ⟨values, server.worker.env.ledgerSequence⟩,
        { server.worker with env := { server.worker.env with source := source } }) := by
  have readEnv : server.worker.env.read world (resolveLedgerEntries keys) =
      (out, { server.worker.env with source := source }) := by
    rw [ForkedEnv.read, read]
  rw [Worker.step, readEnv]
  cases out <;> rfl

/-- **What the server answers.**  A batch whose keys upstream answers is answered with
what the server holds from then on. -/
theorem step_getLedgerEntries (alive : server.alive = true)
    (answered : server.Answered world keys) :
    ∃ server', server.step world (.getLedgerEntries keys) =
        (.ok ⟨keys.map fun key => (server'.holds key).map fun found => (key, found),
          server'.ledgerSequence⟩, server') ∧
      server.Looked world server' keys ∧
      ∀ later, server.Answered world (keys ++ later) ↔ server'.Answered world later := by
  obtain ⟨-, values, source, read, more⟩ | ⟨failed, -⟩ :=
    @read_resolveLedgerEntries X world.client keys server.worker.env.source
  case inr => exact absurd answered failed
  obtain ⟨valued, asked⟩ := RpcSnapshotSource.asked_of_read read
  rw [value_resolveLedgerEntries] at valued
  rw [asked_resolveLedgerEntries] at asked
  have reads := ForkedEnv.read_onlyReads world server.worker.env (resolveLedgerEntries keys)
  rw [ForkedEnv.read, read] at reads
  have added (key : LedgerKey) (found : EntryWithLiveUntil)
      (present : source.held key = some found) :
      server.worker.env.source.held key = some found ∨ world.client.Gave key found := by
    refine RpcSnapshotSource.held_read (resolveLedgerEntries keys) ?_
    rwa [read]
  refine ⟨⟨{ server.worker with env := { server.worker.env with source := source } }, true⟩, ?_,
    ⟨alive.symm, reads, asked, added⟩, more⟩
  rw [Server.step_of_ok alive (worker_step_getLedgerEntries read), ← valued]
  rfl

/-- A fetch that fails ends the worker. -/
theorem step_getLedgerEntries_error (alive : server.alive = true)
    (unanswered : ¬server.Answered world keys) :
    ∃ server', server.step world (.getLedgerEntries keys) = (.error .workerGone, server') := by
  obtain ⟨answered, -⟩ | ⟨-, panic, source, read⟩ :=
    @read_resolveLedgerEntries X world.client keys server.worker.env.source
  case inl => exact absurd answered unanswered
  refine ⟨⟨{ server.worker with env := { server.worker.env with source := source } }, false⟩, ?_⟩
  rw [step, if_pos alive, worker_step_getLedgerEntries read]
  rfl

end Server

/-! ## One batch, over the wire -/

section Batch

variable {world : World X} {wire : Wire X} {json : RpcJson wire} {server : Server X}
  {keys : List LedgerKey}

/-- The handler gets the keys that the client encoded. -/
theorem decodeKeys_encodeKey (kept : ∀ key ∈ keys, wire.Lossless (X.ledgerKey.toXdr key))
    (i : Nat) :
    decodeKeys wire i (keys.map (encodeKey wire)) = .ok keys := by
  induction keys generalizing i with
  | nil => rfl
  | cons key keys ih =>
      have text : decodeBase64 wire s!"keys[{i}]" (encodeKey wire key) =
          .ok (X.ledgerKey.toXdr key) := by
        rw [decodeBase64, encodeKey, kept key (.head _), Except.mapError]
      have parsed : decodeXdr X.ledgerKey s!"keys[{i}]" "" (X.ledgerKey.toXdr key) = .ok key := by
        rw [decodeXdr, X.ledgerKey.fromXdr_toXdr]
      have rest := ih (fun k mem => kept k (.tail _ mem)) (i + 1)
      rw [List.map_cons, decodeKeys, text]
      simp only [bind, Except.bind, parsed, rest]
      rfl

theorem decodeGetLedgerEntries_params (lossless : json.Lossless) (nonempty : keys ≠ [])
    (kept : ∀ key ∈ keys, wire.Lossless (X.ledgerKey.toXdr key)) :
    decodeGetLedgerEntries wire (json.ledgerEntriesParams (keys.map (encodeKey wire))) =
      .ok keys := by
  have parsed : parseParams wire "getLedgerEntries" wire.getLedgerEntriesParams
      (json.ledgerEntriesParams (keys.map (encodeKey wire))) =
        .ok ⟨keys.map (encodeKey wire)⟩ := by
    rw [parseParams, lossless, Except.mapError]
  have sent : (keys.map (encodeKey wire)).isEmpty = false := by
    rw [List.isEmpty_map]
    exact List.isEmpty_eq_false_iff.mpr nonempty
  rw [decodeGetLedgerEntries, parsed]
  simp only [bind, Except.bind, sent, Bool.false_eq_true, if_false]
  exact decodeKeys_encodeKey kept 0

/-- What the server holds of the keys, as it is sent. -/
def Server.items (wire : Wire X) (server : Server X) (keys : List LedgerKey) :
    List LedgerEntryItem :=
  keys.filterMap fun key => (server.holds key).map fun found => ledgerEntryItem wire (key, found)

/-- The handler sends one command, for the keys that the client encoded. -/
theorem dispatch_getLedgerEntries (lossless : json.Lossless) (nonempty : keys ≠ [])
    (kept : ∀ key ∈ keys, wire.Lossless (X.ledgerKey.toXdr key)) :
    dispatch world wire "getLedgerEntries"
        (json.ledgerEntriesParams (keys.map (encodeKey wire))) =
      Prog.ask (.getLedgerEntries keys) fun reply => .ret (.ok (.ledgerEntries
        { entries := reply.entries.reduceOption.map (ledgerEntryItem wire)
          latestLedger := reply.latestLedger })) := by
  have decodes := decodeGetLedgerEntries_params lossless nonempty kept
  show handleGetLedgerEntries wire (json.ledgerEntriesParams (keys.map (encodeKey wire))) = _
  rw [handleGetLedgerEntries, decodes, decoded_ok_bind, send_bind]
  rfl

/-- A worker that is gone is an error to the client. -/
theorem serve_getLedgerEntries_error (lossless : json.Lossless)
    (kept : ∀ key ∈ keys, wire.Lossless (X.ledgerKey.toXdr key)) (nonempty : keys ≠ [])
    {server' : Server X}
    (failed : server.step world (.getLedgerEntries keys) = (.error .workerGone, server')) :
    serve world wire "getLedgerEntries"
        (json.ledgerEntriesParams (keys.map (encodeKey wire))) server =
      (.error (.internalError ActorError.workerGone.toString), server') := by
  rw [serve, dispatch_getLedgerEntries lossless nonempty kept, Prog.run_ask_error failed]
  rfl

/-- The reply to a client lists what the server holds from then on. -/
theorem serve_getLedgerEntries (lossless : json.Lossless) (alive : server.alive = true)
    (readable : server.Readable world wire keys) (nonempty : keys ≠ [])
    (answered : server.Answered world keys) :
    ∃ server', serve world wire "getLedgerEntries"
        (json.ledgerEntriesParams (keys.map (encodeKey wire))) server =
          (.result (.ledgerEntries ⟨server'.items wire keys, server'.ledgerSequence⟩), server') ∧
      server.Looked world server' keys ∧
      ∀ later, server.Answered world (keys ++ later) ↔ server'.Answered world later := by
  obtain ⟨server', stepped, looked, more⟩ := Server.step_getLedgerEntries alive answered
  refine ⟨server', ?_, looked, more⟩
  have items : ((keys.map fun key => (server'.holds key).map fun found =>
      (key, found)).reduceOption.map (ledgerEntryItem wire)) = server'.items wire keys := by
    show (List.filterMap id _).map (ledgerEntryItem wire) = _
    rw [List.filterMap_map, List.map_filterMap, Server.items]
    refine List.filterMap_congr fun key _ => ?_
    rw [Function.comp_apply, id, Option.map_map]
    rfl
  rw [serve, dispatch_getLedgerEntries lossless nonempty readable.keysKept, Prog.run_ask_ok stepped,
    ← items]
  rfl

/-- The client reads back the entry in an item. -/
theorem decodeEntry_ofItem {key : LedgerKey} {found : EntryWithLiveUntil}
    (kept : wire.Lossless (X.ledgerEntryData.toXdr found.1.data)) :
    decodeEntry wire (.ofItem (ledgerEntryItem wire (key, found))) = .ok (.ofHeld found) := by
  have decoded : wire.base64Decode (wire.base64Encode (X.ledgerEntryData.toXdr found.1.data)) =
      .ok (X.ledgerEntryData.toXdr found.1.data) := kept
  unfold decodeEntry EntryResult.ofItem ledgerEntryItem
  simp only [decoded, Except.mapError, bind, Except.bind, X.ledgerEntryData.fromXdr_toXdr]
  rfl

theorem decodeBatch_readReply
    (kept : ∀ key ∈ keys, ∀ found, server.holds key = some found →
      wire.Lossless (X.ledgerEntryData.toXdr found.1.data)) (sequence : UInt32) :
    decodeBatch wire ⟨some ⟨some ((server.items wire keys).map .ofItem), sequence⟩, none⟩ =
      .ok (keys.filterMap server.shown) := by
  have each : ((server.items wire keys).map .ofItem).mapM (decodeEntry wire) =
      .ok (keys.filterMap server.shown) := by
    induction keys with
    | nil => rfl
    | cons key keys ih =>
        have rest := ih fun k mem => kept k (.tail _ mem)
        rcases held : server.holds key with _ | found
        · have absent : server.shown key = none := by
            rw [Server.shown, held, Option.map_none]
          have skipped : server.items wire (key :: keys) = server.items wire keys := by
            rw [Server.items, List.filterMap_cons, held, Option.map_none, Server.items]
          rw [skipped, List.filterMap_cons_none absent]
          exact rest
        · have present : server.shown key = some (.ofHeld found) := by
            rw [Server.shown, held, Option.map_some]
          have sent : server.items wire (key :: keys) =
              ledgerEntryItem wire (key, found) :: server.items wire keys := by
            rw [Server.items, List.filterMap_cons, held, Option.map_some, Server.items]
          have first : decodeEntry wire (.ofItem (ledgerEntryItem wire (key, found))) =
              .ok (.ofHeld found) := decodeEntry_ofItem (kept key (.head _) found held)
          rw [sent, List.filterMap_cons_some present, List.map_cons, List.mapM_cons, first, rest]
          rfl
  rw [decodeBatch, JsonRpcResponse.intoResult]
  exact each

end Batch

/-! ## All batches -/

/-- What a batch takes to reach the worker: an attempt, a worker that is alive, and a
request that the server's HTTP layer takes. -/
def Answerable {wire : Wire X} (json : RpcJson wire) (config : RpcConfig) (server : Server X)
    (batch : List LedgerKey) : Prop :=
  config.retries ≠ UInt32.ofNat (2 ^ 32 - 1) ∧ server.alive = true ∧
    json.refused (batch.map (encodeKey wire)) = none

section Batches

variable {world : World X} {wire : Wire X} {json : RpcJson wire} {server : Server X}
  {overflowChecks : Bool} {config : RpcConfig} {keys batch : List LedgerKey}
  {results : List FetchedEntry} {rest : List (List LedgerKey)}

/-- The first attempt that is answered settles a call. -/
theorem run_rpcPost_of_answer {response : JsonRpcResponse GetLedgerEntriesResult}
    {server' : Server X} {request : List String}
    (fits : config.retries ≠ UInt32.ofNat (2 ^ 32 - 1))
    (answered : attemptOn world wire json request server = (.ok (.ok response), server')) :
    (rpcPost overflowChecks config request).run (attemptOn world wire json) server =
      (.ok (.ok response), server') := by
  rw [rpcPost_of_ne fits, attempts, Prog.run_ask_ok answered]
  rfl

/-- An answerable batch adds what the server shows for its keys. -/
theorem run_fetchBatches_cons_ok (lossless : json.Lossless)
    (readable : server.Readable world wire batch) (nonempty : batch ≠ [])
    (answerable : Answerable json config server batch) (answered : server.Answered world batch) :
    ∃ server', server.Looked world server' batch ∧
      (∀ later, server.Answered world (batch ++ later) ↔ server'.Answered world later) ∧
      ∀ rest results, (fetchBatches wire overflowChecks config (batch :: rest) results).run
          (attemptOn world wire json) server =
        (fetchBatches wire overflowChecks config rest
          (results ++ batch.filterMap server'.shown)).run (attemptOn world wire json) server' := by
  obtain ⟨fits, alive, taken⟩ := answerable
  obtain ⟨server', served, looked, more⟩ :=
    serve_getLedgerEntries lossless alive readable nonempty answered
  refine ⟨server', looked, more, fun rest results => ?_⟩
  have attempted : attemptOn world wire json (batch.map (encodeKey wire)) server =
      (.ok (.ok ⟨some ⟨some ((server'.items wire batch).map .ofItem), server'.ledgerSequence⟩,
        none⟩), server') := by
    rw [attemptOn, taken]
    simp only [served]
    rfl
  rw [fetchBatches, Prog.run_bind_ok (run_rpcPost_of_answer fits attempted)]
  simp only [decodeBatch_readReply (looked.readable readable).heldKept]

/-- A call that fails ends the fetching. -/
theorem run_fetchBatches_of_error {failure : RpcFailure} {server' : Server X}
    (posted : (rpcPost overflowChecks config (batch.map (encodeKey wire))).run
      (attemptOn world wire json) server = (.ok (.error failure), server')) :
    (fetchBatches wire overflowChecks config (batch :: rest) results).run
      (attemptOn world wire json) server = (.ok (.error failure), server') := by
  rw [fetchBatches, Prog.run_bind_ok posted]
  rfl

/-- Any other batch ends the fetching with an error. -/
theorem run_fetchBatches_cons_error (lossless : json.Lossless)
    (kept : ∀ key ∈ batch, wire.Lossless (X.ledgerKey.toXdr key)) (nonempty : batch ≠ [])
    (failing : ¬(server.Answered world batch ∧ Answerable json config server batch)) :
    ∃ failure server', (fetchBatches wire overflowChecks config (batch :: rest) results).run
      (attemptOn world wire json) server = (.ok (.error failure), server') := by
  by_cases fits : config.retries = UInt32.ofNat (2 ^ 32 - 1)
  · obtain ⟨failure, posts⟩ := rpcPost_of_eq fits
    refine ⟨failure, server, run_fetchBatches_of_error ?_⟩
    rw [posts]
    rfl
  rcases taken : json.refused (batch.map (encodeKey wire)) with _ | text
  · -- the request arrives, so the worker is not alive, or it ends at a fetch that fails
    have gone : ∃ server', server.step world (.getLedgerEntries batch) =
        (.error .workerGone, server') := by
      cases alive : server.alive with
      | false => exact ⟨server, Server.step_of_dead alive⟩
      | true =>
          exact Server.step_getLedgerEntries_error alive
            fun answered => failing ⟨answered, fits, alive, taken⟩
    obtain ⟨server', failed⟩ := gone
    have attempted : attemptOn world wire json (batch.map (encodeKey wire)) server =
        (.ok (.ok ⟨none, some (json.errorText
          (.internalError ActorError.workerGone.toString))⟩), server') := by
      rw [attemptOn, taken]
      simp only [serve_getLedgerEntries_error lossless kept nonempty failed]
      rfl
    refine ⟨.error (.rpcError (json.errorText
      (.internalError ActorError.workerGone.toString))), server', ?_⟩
    rw [fetchBatches, Prog.run_bind_ok (run_rpcPost_of_answer fits attempted)]
    rfl
  · refine ⟨.error (.transport text), server, run_fetchBatches_of_error ?_⟩
    have refused : attemptOn world wire json (batch.map (encodeKey wire)) server =
        (.ok (.error (.fatal (.transport text))), server) := by
      rw [attemptOn, taken]
    rw [rpcPost_of_ne fits, attempts, Prog.run_ask_ok refused]
    rfl

/-- **All batches.**  Answerable batches give, in order, what the server shows
for their keys. -/
theorem run_fetchBatches_ok (lossless : json.Lossless) {batches : List (List LedgerKey)}
    (readable : server.Readable world wire batches.flatten)
    (nonempty : ∀ batch ∈ batches, batch ≠ [])
    (answered : server.Answered world batches.flatten)
    (answerable : ∀ batch ∈ batches, Answerable json config server batch) :
    ∃ server', (fetchBatches wire overflowChecks config batches results).run
        (attemptOn world wire json) server =
          (.ok (.ok (results ++ batches.flatten.filterMap server'.shown)), server') ∧
      server.Looked world server' batches.flatten := by
  induction batches generalizing server results with
  | nil =>
      refine ⟨server, ?_, .nil⟩
      rw [List.flatten_nil, List.filterMap_nil, List.append_nil]
      rfl
  | cons batch rest ih =>
      rw [List.flatten_cons] at answered
      obtain ⟨server₁, looked, more, ran⟩ := run_fetchBatches_cons_ok lossless
        readable.firstBatch (nonempty batch (.head _)) (answerable batch (.head _))
        answered.of_append
      have later (b : List LedgerKey) (mem : b ∈ rest) : Answerable json config server₁ b := by
        obtain ⟨fits, alive, taken⟩ := answerable b (.tail _ mem)
        exact ⟨fits, looked.alive.trans alive, taken⟩
      obtain ⟨server₂, ranRest, lookedRest⟩ := ih
        (looked.readable readable.laterBatches) (fun b mem => nonempty b (.tail _ mem))
        ((more rest.flatten).mp answered) later
      refine ⟨server₂, ?_, looked.append lookedRest⟩
      -- the keys of the first batch still show what they showed when it was answered
      have same : batch.filterMap server₁.shown = batch.filterMap server₂.shown :=
        List.filterMap_congr fun key mem => (looked.shown_eq lookedRest mem).symm
      rw [ran, ranRest, same, List.flatten_cons, List.filterMap_append, List.append_assoc]

/-- Fetching ends with an error at the first batch that is not answerable, or that asks
upstream for a key which it does not answer. -/
theorem run_fetchBatches_error (lossless : json.Lossless) {batches : List (List LedgerKey)}
    (readable : server.Readable world wire batches.flatten)
    (nonempty : ∀ batch ∈ batches, batch ≠ [])
    (failing : ¬(server.Answered world batches.flatten ∧
      ∀ batch ∈ batches, Answerable json config server batch)) :
    ∃ failure server', (fetchBatches wire overflowChecks config batches results).run
      (attemptOn world wire json) server = (.ok (.error failure), server') := by
  induction batches generalizing server results with
  | nil => exact (failing ⟨RpcSnapshotSource.answered_nil, fun _ mem => nomatch mem⟩).elim
  | cons batch rest ih =>
      by_cases first : server.Answered world batch ∧ Answerable json config server batch
      · obtain ⟨server₁, looked, more, ran⟩ := run_fetchBatches_cons_ok lossless
          readable.firstBatch (nonempty batch (.head _)) first.2 first.1
        have failingLater : ¬(server₁.Answered world rest.flatten ∧
            ∀ b ∈ rest, Answerable json config server₁ b) := by
          rintro ⟨answered, answerable⟩
          refine failing ⟨(more rest.flatten).mpr answered, fun b mem => ?_⟩
          rcases List.mem_cons.mp mem with rfl | mem
          · exact first.2
          · obtain ⟨fits, alive, taken⟩ := answerable b mem
            exact ⟨fits, looked.alive ▸ alive, taken⟩
        obtain ⟨failure, server₂, failed⟩ := ih (looked.readable readable.laterBatches)
          (fun b mem => nonempty b (.tail _ mem)) failingLater
        refine ⟨failure, server₂, ?_⟩
        rw [ran, failed]
      · exact run_fetchBatches_cons_error lossless readable.firstBatch.keysKept
          (nonempty batch (.head _)) first

theorem fetchEntries_eq (positive : 0 < config.maxKeysPerRequest) :
    fetchEntries wire overflowChecks config keys =
      fetchBatches wire overflowChecks config (chunks config.maxKeysPerRequest keys) [] :=
  if_neg positive.ne'

theorem run_fetchEntries_ok (positive : 0 < config.maxKeysPerRequest) (lossless : json.Lossless)
    (readable : server.Readable world wire keys) (answered : server.Answered world keys)
    (answerable : ∀ batch ∈ chunks config.maxKeysPerRequest keys,
      Answerable json config server batch) :
    ∃ server', (fetchEntries wire overflowChecks config keys).run
        (attemptOn world wire json) server =
          (.ok (.ok (keys.filterMap server'.shown)), server') ∧
      server.Looked world server' keys := by
  have all := flatten_chunks positive keys
  have nonempty : ∀ batch ∈ chunks config.maxKeysPerRequest keys, batch ≠ [] :=
    fun _ => ne_nil_of_mem_chunks positive
  obtain ⟨server', ran, looked⟩ :=
    run_fetchBatches_ok lossless (all.symm ▸ readable) nonempty (all.symm ▸ answered) answerable
  rw [all] at ran looked
  rw [fetchEntries_eq positive]
  exact ⟨server', ran, looked⟩

theorem run_fetchEntries_error (positive : 0 < config.maxKeysPerRequest)
    (lossless : json.Lossless) (readable : server.Readable world wire keys)
    (failing : ¬(server.Answered world keys ∧
      ∀ batch ∈ chunks config.maxKeysPerRequest keys, Answerable json config server batch)) :
    ∃ failure server', (fetchEntries wire overflowChecks config keys).run
      (attemptOn world wire json) server = (.ok (.error failure), server') := by
  have all := flatten_chunks positive keys
  have nonempty : ∀ batch ∈ chunks config.maxKeysPerRequest keys, batch ≠ [] :=
    fun _ => ne_nil_of_mem_chunks positive
  rw [fetchEntries_eq positive]
  exact run_fetchBatches_error lossless (all.symm ▸ readable) nonempty (all.symm ▸ failing)

theorem chunks_singleton {α : Type} {n : Nat} (positive : 0 < n) (a : α) :
    chunks n [a] = [[a]] := by
  have whole : [a].take n = [a] := List.take_of_length_le positive
  rw [chunks, List.length_singleton, chunksUpTo, whole, chunksUpTo]

/-- **A fork of a fork sees the same ledger.**  The client gets one entry for
each occurrence of a present key, in order, and none for an absent one, exactly
when all its batches are answerable and the server's own upstream answers the
keys that are not cached.  Meanwhile the server only reads. -/
theorem fork_of_fork (overflowChecks : Bool) (config : RpcConfig)
    (positive : 0 < config.maxKeysPerRequest) (lossless : json.Lossless)
    (readable : server.Readable world wire keys) :
    ((∃ server', (fetchEntries wire overflowChecks config keys).run
        (attemptOn world wire json) server =
          (.ok (.ok (keys.filterMap server'.shown)), server') ∧
        server.Looked world server' keys) ↔
      server.Answered world keys ∧
        ∀ batch ∈ chunks config.maxKeysPerRequest keys, Answerable json config server batch) ∧
    ∀ key ∈ keys, ((∃ server', (fetchEntry wire overflowChecks config key).run
        (attemptOn world wire json) server = (.ok (.ok (server'.shown key)), server') ∧
        server.Looked world server' [key]) ↔
      server.Answered world [key] ∧ Answerable json config server [key]) := by
  refine ⟨⟨?_, fun ⟨answered, answerable⟩ =>
    run_fetchEntries_ok positive lossless readable answered answerable⟩, fun key mem => ?_⟩
  · rintro ⟨server', ran, -⟩
    by_contra failing
    obtain ⟨failure, last, failed⟩ := run_fetchEntries_error positive lossless readable failing
    rw [failed] at ran
    cases ran
  · have readableKey : server.Readable world wire [key] :=
      readable.sublist fun k same => List.mem_singleton.mp same ▸ mem
    have single : (∀ batch ∈ chunks config.maxKeysPerRequest [key],
        Answerable json config server batch) ↔ Answerable json config server [key] := by
      rw [chunks_singleton positive key, List.forall_mem_singleton]
    rw [← single]
    constructor
    · rintro ⟨server', ran, -⟩
      by_contra failing
      obtain ⟨failure, last, failed⟩ :=
        run_fetchEntries_error positive lossless readableKey failing
      rw [fetchEntry, Prog.run_bind_ok failed] at ran
      cases ran
    · rintro ⟨answered, answerable⟩
      obtain ⟨server', ran, looked⟩ :=
        run_fetchEntries_ok positive lossless readableKey answered answerable
      refine ⟨server', ?_, looked⟩
      rw [fetchEntry, Prog.run_bind_ok ran, List.filterMap_cons, List.filterMap_nil]
      cases server'.shown key <;> rfl

end Batches

end

namespace Sample

/-- The texts of the keys and of the entry below. -/
def forkTexts : List (String × Buf) :=
  [("K2", .ledgerKey (.account (account 2))), ("K3", .ledgerKey (.account (account 3))),
    ("D2", .ledgerEntryData (accountEntry 2 5).2.1.data)]

/-- The HTTP layer takes requests for up to 20000 keys. -/
def forkJson : RpcJson (wire forkTexts) where
  ledgerEntriesParams keys := .getLedgerEntries ⟨keys⟩
  refused keys := if 20000 < keys.length then some "413 Payload Too Large" else none
  errorText e := e.message
  otherShape := "missing field entries"
  connectionClosed := "connection closed before message completed"

/-- An absent key between two occurrences of a present one. -/
def forkKeys : List LedgerKey :=
  [.account (account 2), .account (account 3), .account (account 2)]

/-- The account that is present. -/
def forkServer : Server xdr := server [accountEntry 2 5]

/-- Upstream answers for the other account, and for no more than that. -/
def forkWorld : World xdr :=
  { world with
    client := fun _ key =>
      if key = .account (account 3) then .ok none else .error (.transport "timed out") }

theorem forkServer_readable : forkServer.Readable forkWorld (wire forkTexts) forkKeys where
  keysKept key mem := by
    simp only [forkKeys, List.mem_cons, List.not_mem_nil, or_false] at mem
    rcases mem with rfl | rfl | rfl <;> rfl
  heldKept key mem found present := by
    simp only [forkKeys, List.mem_cons, List.not_mem_nil, or_false] at mem
    rcases mem with rfl | rfl | rfl <;> cases present <;> rfl
  fetchedKept key _ n fetched answered := by
    have none : forkWorld.client n key ≠ .ok (some fetched) := by
      show (if key = .account (account 3) then _ else _) ≠ _
      split <;> exact nofun
    exact absurd answered none

/-- Only the absent account is asked for. -/
theorem forkServer_answered : forkServer.Answered forkWorld forkKeys := by
  intro strict i key missing
  have only : forkServer.worker.env.source.missing forkKeys = [.account (account 3)] := by decide
  rw [only, List.getElem?_singleton] at missing
  split at missing
  · obtain rfl := Option.some.inj missing
    exact ⟨none, rfl⟩
  · cases missing

end Sample

open Sample in
theorem fork_of_fork_inTwoBatches :
    (∃ server', (fetchEntries (wire forkTexts) true ⟨3, 2⟩ forkKeys).run
        (attemptOn forkWorld (wire forkTexts) forkJson) forkServer =
          (.ok (.ok (forkKeys.filterMap server'.shown)), server') ∧
      forkServer.Looked forkWorld server' forkKeys) ∧
    ∃ server', (fetchEntry (wire forkTexts) true ⟨3, 2⟩ (.account (account 2))).run
        (attemptOn forkWorld (wire forkTexts) forkJson) forkServer =
          (.ok (.ok (server'.shown (.account (account 2)))), server') ∧
      forkServer.Looked forkWorld server' [.account (account 2)] := by
  have lossless : forkJson.Lossless := fun _ => rfl
  have settled := fork_of_fork true ⟨3, 2⟩ (by decide) lossless forkServer_readable
  refine ⟨settled.1.mpr ⟨forkServer_answered, fun batch mem => ?_⟩,
    (settled.2 (.account (account 2)) (.head _)).mpr ⟨?_, by decide, rfl, rfl⟩⟩
  · have batches : chunks 2 forkKeys = [forkKeys.take 2, forkKeys.drop 2] := rfl
    simp only [batches, List.mem_cons, List.not_mem_nil, or_false] at mem
    rcases mem with rfl | rfl <;> exact ⟨by decide, rfl, rfl⟩
  · exact RpcSnapshotSource.Answered.of_append forkServer_answered

open Sample in
/-- With the greatest number of retries nothing is read: the number of attempts
overflows. -/
theorem fork_of_fork_fails_at_mostRetries :
    let config : RpcConfig := ⟨4294967295, 200⟩
    let fetched := fun overflowChecks =>
      (fetchEntries (wire forkTexts) overflowChecks config forkKeys).run
        (attemptOn forkWorld (wire forkTexts) forkJson) forkServer
    0 < config.maxKeysPerRequest ∧ forkServer.Readable forkWorld (wire forkTexts) forkKeys ∧
    forkServer.Answered forkWorld forkKeys ∧
    fetched true = (.ok (.error (.panic "attempt to add with overflow")), forkServer) ∧
    fetched false = (.ok (.error (.error
      (.transport "retry loop exhausted with no recorded error"))), forkServer) ∧
    ¬∃ overflowChecks server',
      fetched overflowChecks = (.ok (.ok (forkKeys.filterMap server'.shown)), server') := by
  refine ⟨by decide, forkServer_readable, forkServer_answered, rfl, rfl, ?_⟩
  rintro ⟨overflowChecks, server', ran⟩
  cases overflowChecks with
  | true => cases ran
  | false => cases ran

end SorobanFork
