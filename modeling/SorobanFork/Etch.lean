import SorobanFork.ErrorReplies
import SorobanFork.ReadModifyWrite
import SorobanFork.Server.Live

/-!
# What `fork_etch` leaves behind

`run_etch` is the whole effect of a `fork_etch` that is answered: two writes to
the source, of the code and of the instance, with a read of the instance in
between.

* `etch_is_composition`: the fork answers as after the `fork_setCode` and the
  `fork_setStorage` that the request replaces.
* `etch_keeps_live_iff`: both entries are built afresh, and take their live-until
  from the request.  So a request without one leaves the instance and the code as
  live as they were only if they had none before.
-/

namespace SorobanFork

open Lib

section

variable {X : Xdr} {world : World X} {wire : Wire X}

/-! ## The handlers -/

section Handlers

variable {server : Server X} {value : Option EntryWithLiveUntil}

/-- **What `fork_etch` does**, if the instance it reads is missing or one it can replace. -/
theorem run_etch {request : EtchRequest} {storage : Option (List (ScVal × ScVal))}
    (alive : server.alive = true)
    (answered : server.worker.env.source.answer world.client request.instanceKey = .ok value)
    (preserved : preservedStorage wire (value.map (·.1)) = .ok storage) :
    Prog.run (Server.step world) (etch wire request) server =
      (.ok (.ok (.setCode ⟨true, hexLower request.hash, server.ledgerSequence⟩)),
        server.withSource
          (((server.worker.env.source.write request.codeWrite).get world.client
            request.instanceKey).2.write (request.instanceWrite storage))) := by
  have other : request.instanceKey ≠ request.codeWrite.key := nofun
  refine (run_send (step_write alive request.codeWrite)).trans ?_
  refine (run_send (step_getLedgerEntries (Server.alive_withSource alive _)
    ((RpcSnapshotSource.answer_write other).trans answered))).trans ?_
  rw [single_entries, preserved, decoded_ok_bind]
  refine (run_send (step_write (Server.alive_withSource alive _)
    (request.instanceWrite storage))).trans ?_
  exact run_send (step_getLatestLedger (Server.alive_withSource alive _))

theorem run_setCode {params : wire.Json} {hash : Hash} {write : EntryWrite}
    (alive : server.alive = true) (decodes : decodeSetCode world wire params = .ok (hash, write)) :
    Prog.run (Server.step world) (handleForkSetCode world wire params) server =
      (.ok (.ok (.setCode ⟨true, hexLower hash, server.ledgerSequence⟩)),
        server.withSource (server.worker.env.source.write write)) := by
  rw [handleForkSetCode, decodes, decoded_ok_bind]
  refine (run_send (step_write alive write)).trans ?_
  exact run_send (step_getLatestLedger (Server.alive_withSource alive _))

theorem run_setCode_of_dead {params : wire.Json} {hash : Hash} {write : EntryWrite}
    (dead : server.alive = false)
    (decodes : decodeSetCode world wire params = .ok (hash, write)) :
    Prog.run (Server.step world) (handleForkSetCode world wire params) server =
      (.error .workerGone, server) := by
  rw [handleForkSetCode, decodes, decoded_ok_bind]
  exact run_send_of_dead dead

theorem run_setStorage {params : wire.Json} {write : EntryWrite} (alive : server.alive = true)
    (decodes : decodeSetStorage wire params = .ok write) :
    Prog.run (Server.step world) (handleForkSetStorage wire params) server =
      (.ok (.ok (.setLedgerEntry ⟨true, server.ledgerSequence⟩)),
        server.withSource (server.worker.env.source.write write)) := by
  rw [handleForkSetStorage, decodes, decoded_ok_bind]
  refine (run_send (step_write alive write)).trans ?_
  exact run_send (step_getLatestLedger (Server.alive_withSource alive _))

end Handlers

/-! ## The composition it replaces -/

/-- The parameters of a `fork_etch`, and of a `fork_setCode` and a `fork_setStorage`
that install the same code and an instance running it on the given storage. -/
structure SameEtch (world : World X) (wire : Wire X)
    (etchParams codeParams storageParams : wire.Json) (contract : Hash) (wasm : X.Buf)
    (storage : Option (List (ScVal × ScVal))) (liveUntil : Option UInt32) : Prop where
  etch : ∃ parsed, wire.etchParams etchParams = .ok parsed ∧
    wire.contractFromString parsed.contract = .ok contract ∧
    wire.base64Decode parsed.wasm = .ok wasm ∧ parsed.liveUntilLedgerSeq = liveUntil
  setCode : ∃ parsed, wire.setCodeParams codeParams = .ok parsed ∧
    wire.base64Decode parsed.wasm = .ok wasm ∧ parsed.liveUntilLedgerSeq = liveUntil
  setStorage : ∃ parsed keyBytes valueBytes, wire.setStorageParams storageParams = .ok parsed ∧
    wire.contractFromString parsed.contract = .ok contract ∧
    wire.base64Decode parsed.key = .ok keyBytes ∧
    X.scVal.fromXdr keyBytes = some .ledgerKeyContractInstance ∧
    wire.base64Decode parsed.value = .ok valueBytes ∧
    X.scVal.fromXdr valueBytes =
      some (.contractInstance (.wasm (world.sha256 wasm)) storage) ∧
    parsed.durability.getD .persistent = .persistent ∧ parsed.liveUntilLedgerSeq = liveUntil

/-- There is no entry to keep storage of, or it is an instance with this storage. -/
def InstanceStorage (found : Option EntryWithLiveUntil)
    (storage : Option (List (ScVal × ScVal))) : Prop :=
  found = none ∧ storage = none ∨
    ∃ entry liveUntil cd executable, found = some (entry, liveUntil) ∧
      entry.data = .contractData cd ∧ cd.val = .contractInstance executable storage

theorem preservedStorage_ok {found : Option EntryWithLiveUntil}
    {storage : Option (List (ScVal × ScVal))} (keeps : InstanceStorage found storage) :
    preservedStorage wire (found.map (·.1)) = .ok storage := by
  rcases keeps with ⟨rfl, rfl⟩ | ⟨entry, liveUntil, cd, executable, rfl, data, val⟩
  · rfl
  · simp only [preservedStorage, Option.map_some, data, val]

section Composition

variable {etchParams codeParams storageParams : wire.Json} {contract : Hash} {wasm : X.Buf}
  {storage : Option (List (ScVal × ScVal))} {liveUntil : Option UInt32}

theorem SameEtch.decodeEtch
    (same : SameEtch world wire etchParams codeParams storageParams contract wasm storage
      liveUntil) :
    SorobanFork.decodeEtch world wire etchParams =
      (wasmBytes wasm).map fun code =>
        ⟨.contract contract, world.sha256 wasm, code, liveUntil⟩ := by
  obtain ⟨parsed, parses, contractOk, wasmOk, rfl⟩ := same.etch
  rw [SorobanFork.decodeEtch, parseParams_ok parses, except_ok_bind, decodeContract_ok contractOk,
    except_ok_bind, decodeBase64_ok wasmOk, except_ok_bind]
  cases wasmBytes wasm <;> rfl

theorem SameEtch.decodeSetCode
    (same : SameEtch world wire etchParams codeParams storageParams contract wasm storage
      liveUntil) :
    SorobanFork.decodeSetCode world wire codeParams =
      (wasmBytes wasm).map fun code =>
        (world.sha256 wasm, contractCodeWrite (world.sha256 wasm) code liveUntil) := by
  obtain ⟨parsed, parses, wasmOk, rfl⟩ := same.setCode
  rw [SorobanFork.decodeSetCode, parseParams_ok parses, except_ok_bind, decodeBase64_ok wasmOk,
    except_ok_bind]
  cases wasmBytes wasm <;> rfl

theorem SameEtch.decodeSetStorage
    (same : SameEtch world wire etchParams codeParams storageParams contract wasm storage
      liveUntil) :
    SorobanFork.decodeSetStorage wire storageParams =
      .ok (contractDataWrite (.contract contract) .ledgerKeyContractInstance .persistent
        (.contractInstance (.wasm (world.sha256 wasm)) storage) liveUntil) := by
  obtain ⟨parsed, keyBytes, valueBytes, parses, contractOk, keyOk, key, valueOk, value, persistent,
    rfl⟩ := same.setStorage
  rw [SorobanFork.decodeSetStorage, parseParams_ok parses, except_ok_bind,
    decodeContract_ok contractOk, except_ok_bind, decodeBase64_ok keyOk, except_ok_bind,
    decodeXdr_ok key, except_ok_bind, decodeBase64_ok valueOk, except_ok_bind,
    decodeXdr_ok value, except_ok_bind, persistent]
  rfl

theorem RpcSnapshotSource.view_write (upstream : Upstream) (source : RpcSnapshotSource X)
    (write : EntryWrite) :
    (source.write write).view upstream =
      Function.update (source.view upstream) write.key
        (some (some (write.entry, write.liveUntil))) :=
  view_setEntry ..

theorem SameEtch.dispatch_etch {code : Bytes}
    (same : SameEtch world wire etchParams codeParams storageParams contract wasm storage
      liveUntil) (bytes : wasmBytes wasm = .ok code) :
    dispatch world wire "fork_etch" etchParams =
      SorobanFork.etch wire ⟨.contract contract, world.sha256 wasm, code, liveUntil⟩ := by
  have decodes := same.decodeEtch
  rw [bytes] at decodes
  exact dispatch_etch_of_decoded decodes

/-- With code that is too long, or without a worker, both requests are refused alike. -/
theorem refused_alike (server : Server X)
    (same : SameEtch world wire etchParams codeParams storageParams contract wasm storage
      liveUntil)
    (refused : (∃ e, wasmBytes wasm = .error e) ∨ server.alive = false) :
    ∃ reply, (∀ response, reply ≠ .result response) ∧
      serve world wire "fork_etch" etchParams server = (reply, server) ∧
      serve world wire "fork_setCode" codeParams server = (reply, server) := by
  have etch_ := same.decodeEtch
  have code_ := same.decodeSetCode
  cases bytes : wasmBytes wasm with
  | error e =>
      rw [bytes] at etch_ code_
      have etchHandler : dispatch world wire "fork_etch" etchParams = Prog.ret (.error e) := by
        rw [dispatch_fork_etch, handleForkEtch, etch_]
        rfl
      have codeHandler : dispatch world wire "fork_setCode" codeParams = Prog.ret (.error e) := by
        rw [dispatch_fork_setCode, handleForkSetCode, code_]
        rfl
      refine ⟨_, ?_, serve_of_run etchHandler rfl, serve_of_run codeHandler rfl⟩
      intro response result
      cases e <;> cases result
  | ok code =>
      have dead : server.alive = false := by
        rcases refused with ⟨e, tooLong⟩ | dead
        · rw [bytes] at tooLong
          cases tooLong
        · exact dead
      rw [bytes] at code_
      refine ⟨_, ?_, serve_of_run (same.dispatch_etch bytes) (run_send_of_dead dead),
        serve_of_run rfl (run_setCode_of_dead dead code_)⟩
      intro response result
      cases result

/-- **`fork_etch` is the composition it replaces.**  Over a missing entry or an
instance with the given storage, the request replies as the `fork_setCode` does.
If that is a result, so is the reply of the `fork_setStorage` after it, and the
fork answers every key alike; if it is not, neither request changed anything. -/
theorem etch_is_composition {upstream : Upstream} (fixed : world.client.Fixed upstream)
    (server : Server X) {found : Option EntryWithLiveUntil}
    (same : SameEtch world wire etchParams codeParams storageParams contract wasm storage
      liveUntil)
    (shown : server.worker.env.source.view upstream
      (.contractData (.contract contract) .ledgerKeyContractInstance .persistent) = some found)
    (keeps : InstanceStorage found storage) :
    let etched := serve world wire "fork_etch" etchParams server
    let coded := serve world wire "fork_setCode" codeParams server
    let stored := serve world wire "fork_setStorage" storageParams coded.2
    etched.1 = coded.1 ∧
      ((∃ response, coded.1 = .result response) →
        (∃ response, stored.1 = .result response) ∧
          Server.SameAnswers upstream stored.2 etched.2) ∧
      ((∀ response, coded.1 ≠ .result response) → etched.2 = server ∧ coded.2 = server) := by
  intro etched coded stored
  cases bytes : wasmBytes wasm with
  | error e =>
      obtain ⟨reply, noResult, etchRan, codeRan⟩ := refused_alike server same (.inl ⟨e, bytes⟩)
      rw [show etched = _ from etchRan, show coded = _ from codeRan]
      exact ⟨rfl, fun result => absurd result.choose_spec (noResult _), fun _ => ⟨rfl, rfl⟩⟩
  | ok code =>
      cases alive : server.alive with
      | false =>
          obtain ⟨reply, noResult, etchRan, codeRan⟩ := refused_alike server same (.inr alive)
          rw [show etched = _ from etchRan, show coded = _ from codeRan]
          exact ⟨rfl, fun result => absurd result.choose_spec (noResult _), fun _ => ⟨rfl, rfl⟩⟩
      | true =>
          have code_ := same.decodeSetCode
          rw [bytes] at code_
          have answered : server.worker.env.source.answer world.client
              (.contractData (.contract contract) .ledgerKeyContractInstance .persistent) =
                .ok found := by
            obtain ⟨s, got, -⟩ := RpcSnapshotSource.get_of_view fixed shown
            rw [RpcSnapshotSource.answer, got]
          have etchRan : etched = _ := serve_of_run (same.dispatch_etch bytes)
            (run_etch alive answered (preservedStorage_ok keeps))
          have codeRan : coded = _ := serve_of_run rfl (run_setCode alive code_)
          have aliveAfter : coded.2.alive = true := by
            rw [codeRan]
            exact alive
          have storageRan : stored = _ :=
            serve_of_run rfl (run_setStorage aliveAfter same.decodeSetStorage)
          rw [storageRan, etchRan, codeRan]
          refine ⟨rfl, fun _ => ⟨⟨_, rfl⟩, ⟨fun key => ?_, rfl, rfl⟩⟩, fun refused => ?_⟩
          · -- the read in between shows nothing new
            refine congrFun ?_ key
            refine (RpcSnapshotSource.view_write ..).trans ?_
            rw [RpcSnapshotSource.view_get fixed]
            exact (RpcSnapshotSource.view_write ..).symm
          · exact absurd rfl (refused _)

end Composition

/-! ## What stays live -/

/-- An instance entry with another executable. -/
def LedgerEntry.withExecutable (hash : Hash) (entry : LedgerEntry) : LedgerEntry :=
  match entry.data with
  | .contractData cd =>
    match cd.val with
    | .contractInstance _ storage =>
      { entry with
        data := .contractData { cd with val := .contractInstance (.wasm hash) storage } }
    | _ => entry
  | _ => entry

/-- The entry names its key, and has no extensions. -/
def LedgerEntry.PlainUnder (key : LedgerKey) (entry : LedgerEntry) : Prop :=
  entry.data.key = key ∧ entry.ext = .v0 ∧ ∀ cd, entry.data = .contractData cd → cd.ext = .v0

def LedgerEntry.IsCode (entry : LedgerEntry) : Prop := ∃ code, entry.data = .contractCode code

/-- The instance differs in the executable and the last-modified ledger only, and
it and a code entry that was cached live as long as before. -/
structure KeepsLive (client : RpcClient) (request : EtchRequest) (server server' : Server X) :
    Prop where
  contractInstance : ∀ entry liveUntil,
    server.worker.env.source.answer client request.instanceKey = .ok (some (entry, liveUntil)) →
      ∃ entry', server'.worker.env.source.answer client request.instanceKey =
          .ok (some (entry', liveUntil)) ∧
        entry' = { entry.withExecutable request.hash with
          lastModifiedLedgerSeq := entry'.lastModifiedLedgerSeq }
  code : ∀ entry liveUntil, server.holds request.codeWrite.key = some (entry, liveUntil) →
    entry.IsCode → ∃ entry', server'.worker.env.source.answer client request.codeWrite.key =
      .ok (some (entry', liveUntil))

section Live

variable {server server' : Server X} {request : EtchRequest} {entry : LedgerEntry}
  {liveUntil : Option UInt32}

theorem instanceStorage_of_isInstance (isInstance : entry.IsInstance) :
    InstanceStorage (some (entry, liveUntil)) entry.instanceStorage := by
  obtain ⟨cd, executable, storage, data, val⟩ := isInstance
  refine .inr ⟨entry, liveUntil, cd, executable, rfl, data, ?_⟩
  rw [LedgerEntry.instanceStorage, data]
  simp only [val]

/-- The instance that is written is the old one with the executable replaced if
that had no extensions and named its key. -/
theorem instanceWrite_eq_iff (isInstance : entry.IsInstance) :
    (request.instanceWrite entry.instanceStorage).entry =
        { entry.withExecutable request.hash with lastModifiedLedgerSeq := 0 } ↔
      entry.PlainUnder request.instanceKey := by
  obtain ⟨⟨cdExt, contract, key, durability, val⟩, executable, storage, data, val_⟩ := isInstance
  obtain ⟨seq, data_, ext⟩ := entry
  change data_ = _ at data
  change val = _ at val_
  subst data val_
  simp only [EtchRequest.instanceWrite, contractDataWrite, LedgerEntry.withExecutable,
    LedgerEntry.instanceStorage, LedgerEntry.PlainUnder, LedgerEntryData.key,
    EtchRequest.instanceKey, LedgerEntry.mk.injEq, LedgerEntryData.contractData.injEq,
    ContractDataEntry.mk.injEq, LedgerKey.contractData.injEq, true_and, and_true, forall_eq']
  constructor
  · rintro ⟨⟨rfl, rfl, rfl, rfl⟩, rfl⟩
    exact ⟨⟨rfl, rfl, rfl⟩, rfl, rfl⟩
  · rintro ⟨⟨rfl, rfl, rfl⟩, rfl, rfl⟩
    exact ⟨⟨rfl, rfl, rfl, rfl⟩, rfl⟩

/-- The two answers after a `fork_etch` that was answered. -/
theorem answers_of_etch {params : wire.Json} {response : Response}
    (decodes : decodeEtch world wire params = .ok request)
    (answered : server.worker.env.source.answer world.client request.instanceKey =
      .ok (some (entry, liveUntil)))
    (isInstance : entry.IsInstance)
    (served : serve world wire "fork_etch" params server = (.result response, server')) :
    server'.worker.env.source.answer world.client request.instanceKey =
        .ok (some ((request.instanceWrite entry.instanceStorage).entry, request.liveUntil)) ∧
      server'.worker.env.source.answer world.client request.codeWrite.key =
        .ok (some (request.codeWrite.entry, request.liveUntil)) := by
  have handler := dispatch_etch_of_decoded decodes
  cases alive : server.alive with
  | false =>
      rw [serve_of_run handler (run_send_of_dead alive)] at served
      cases served
  | true =>
      have keeps := @instanceStorage_of_isInstance entry liveUntil isInstance
      rw [serve_of_run handler (run_etch alive answered (preservedStorage_ok keeps))] at served
      cases served
      have other : request.codeWrite.key ≠ request.instanceKey := fun same => by cases same
      constructor
      · exact congrArg Prod.fst (RpcSnapshotSource.get_of_cached
          (RpcSnapshotSource.cached_write_self _ (request.instanceWrite entry.instanceStorage)))
      · have written : (server.worker.env.source.write request.codeWrite).cached
            request.codeWrite.key = some (some (request.codeWrite.entry, request.liveUntil)) :=
          RpcSnapshotSource.cached_write_self _ _
        refine congrArg Prod.fst (RpcSnapshotSource.get_of_cached ?_)
        refine (RpcSnapshotSource.cached_write_of_ne other).trans ?_
        exact RpcSnapshotSource.cached_get_of_cached written

/-- **When `fork_etch` keeps a live contract live.**  A request without a live-until
leaves the instance and the code as live as they were, and the instance unchanged
but for its executable, exactly if the instance had no live-until, named its key
and had no extensions, and the code, if it was cached, had no live-until either. -/
theorem etch_keeps_live_iff {params : wire.Json} {response : Response}
    (decodes : decodeEtch world wire params = .ok request) (without : request.liveUntil = none)
    (answered : server.worker.env.source.answer world.client request.instanceKey =
      .ok (some (entry, liveUntil)))
    (isInstance : entry.IsInstance)
    (served : serve world wire "fork_etch" params server = (.result response, server')) :
    KeepsLive world.client request server server' ↔
      (liveUntil = none ∧ entry.PlainUnder request.instanceKey) ∧
        ∀ code codeLiveUntil, server.holds request.codeWrite.key = some (code, codeLiveUntil) →
          code.IsCode → codeLiveUntil = none := by
  obtain ⟨instanceAfter, codeAfter⟩ := answers_of_etch decodes answered isInstance served
  rw [without] at instanceAfter codeAfter
  constructor
  · rintro ⟨keepsInstance, keepsCode⟩
    obtain ⟨entry', after, same⟩ := keepsInstance entry liveUntil answered
    rw [instanceAfter] at after
    obtain ⟨rfl, rfl⟩ := Prod.mk.inj (Option.some.inj (Except.ok.inj after))
    refine ⟨⟨rfl, (instanceWrite_eq_iff isInstance).mp same⟩, ?_⟩
    intro code codeLiveUntil held isCode
    obtain ⟨code', after⟩ := keepsCode code codeLiveUntil held isCode
    rw [codeAfter] at after
    exact (congrArg Prod.snd (Option.some.inj (Except.ok.inj after))).symm
  · rintro ⟨⟨rfl, plain⟩, noCode⟩
    constructor
    · intro entry' liveUntil' answered'
      rw [answered] at answered'
      obtain ⟨rfl, rfl⟩ := Prod.mk.inj (Option.some.inj (Except.ok.inj answered'))
      exact ⟨_, instanceAfter, (instanceWrite_eq_iff isInstance).mpr plain⟩
    · intro code codeLiveUntil held isCode
      rw [noCode code codeLiveUntil held isCode]
      exact ⟨_, codeAfter⟩

end Live

end

/-! ## A live contract, etched -/

namespace Sample

/-- An instance with one slot of storage, which lives until the given ledger. -/
def instanceWith (liveUntil : Option UInt32) : EntryWrite :=
  contractDataWrite (.contract (bytes32 1)) .ledgerKeyContractInstance .persistent
    (.contractInstance (.wasm (bytes32 3)) (some [(.void, .void)])) liveUntil

/-- The fork with the instance in its cache. -/
def instanceServer (liveUntil : Option UInt32) : Server xdr :=
  server [((instanceWith liveUntil).key, (instanceWith liveUntil).entry, liveUntil)]

/-- After a `fork_etch` without a live-until. -/
def etchedFrom (liveUntil : Option UInt32) : RpcReply × Server xdr :=
  serve world etchWire "fork_etch" etchParams (instanceServer liveUntil)

def etchRequest : EtchRequest :=
  ⟨.contract (bytes32 1), world.sha256 (.raw [0, 97, 115, 109]), [0, 97, 115, 109], none⟩

/-- Texts for the key and the value that `fork_setStorage` needs to do the same. -/
def composedWire : Wire xdr :=
  wire [("instance", .scVal .ledgerKeyContractInstance), ("wasm", .raw [0, 97, 115, 109]),
    ("etched", .scVal (.contractInstance (.wasm (world.sha256 (.raw [0, 97, 115, 109])))
      (some [(.void, .void)])))]

def codeParams : Json := .setCode ⟨"wasm", none⟩

def storageParams : Json := .setStorage ⟨"C1", "instance", "etched", none, none⟩

end Sample

open Sample in
/-- The instance lives until ledger 5000; after the `fork_etch` it has no live-until. -/
theorem etch_drops_live_until :
    decodeEtch world etchWire etchParams = .ok etchRequest ∧
      (instanceServer (some 5000)).holds etchRequest.instanceKey =
        some ((instanceWith (some 5000)).entry, some 5000) ∧
      (∃ response, (etchedFrom (some 5000)).1 = .result response) ∧
      (etchedFrom (some 5000)).2.holds etchRequest.instanceKey =
        some ((etchRequest.instanceWrite (some [(.void, .void)])).entry, none) ∧
      ¬KeepsLive world.client etchRequest (instanceServer (some 5000))
        (etchedFrom (some 5000)).2 := by
  refine ⟨rfl, by decide, ⟨_, rfl⟩, by decide, fun keeps => ?_⟩
  obtain ⟨entry', after, -⟩ := keeps.contractInstance _ (some 5000) rfl
  have dropped : (etchedFrom (some 5000)).2.worker.env.source.answer world.client
      etchRequest.instanceKey =
        .ok (some ((etchRequest.instanceWrite (some [(.void, .void)])).entry, none)) := rfl
  rw [dropped] at after
  cases after

open Sample in
theorem etch_keeps_live_iff_without :
    KeepsLive world.client etchRequest (instanceServer none) (etchedFrom none).2 ↔
      ((none : Option UInt32) = none ∧
        (instanceWith none).entry.PlainUnder etchRequest.instanceKey) ∧
        ∀ code codeLiveUntil, (instanceServer none).holds etchRequest.codeWrite.key =
          some (code, codeLiveUntil) → code.IsCode → codeLiveUntil = none :=
  @etch_keeps_live_iff xdr world etchWire (instanceServer none) (etchedFrom none).2 etchRequest
    (instanceWith none).entry none etchParams _ rfl rfl rfl ⟨_, _, _, rfl, rfl⟩ rfl

open Sample in
theorem etch_is_composition_instance :
    let etched := serve world composedWire "fork_etch" etchParams (instanceServer (some 5000))
    let coded := serve world composedWire "fork_setCode" codeParams (instanceServer (some 5000))
    let stored := serve world composedWire "fork_setStorage" storageParams coded.2
    etched.1 = coded.1 ∧
      ((∃ response, coded.1 = .result response) →
        (∃ response, stored.1 = .result response) ∧
          Server.SameAnswers absentUpstream stored.2 etched.2) ∧
      ((∀ response, coded.1 ≠ .result response) →
        etched.2 = instanceServer (some 5000) ∧ coded.2 = instanceServer (some 5000)) :=
  @etch_is_composition xdr world composedWire etchParams codeParams storageParams (bytes32 1)
    (.raw [0, 97, 115, 109]) (some [(.void, .void)]) none absentUpstream fixed
    (instanceServer (some 5000)) (some ((instanceWith (some 5000)).entry, some 5000))
    ⟨⟨_, rfl, rfl, rfl, rfl⟩, ⟨_, rfl, rfl, rfl⟩, ⟨_, _, _, rfl, rfl, rfl, rfl, rfl, rfl, rfl, rfl⟩⟩
    rfl (.inr ⟨_, _, _, _, rfl, rfl, rfl⟩)

end SorobanFork
