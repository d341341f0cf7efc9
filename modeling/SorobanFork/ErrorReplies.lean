import SorobanFork.Sample
import SorobanFork.Server.Concurrent

/-!
# Error replies and their effects

A request that is answered by an error should have changed nothing.  Every
handler decodes and validates before it writes, and is `Prog.Clean` in that
sense, but for `fork_etch`: it installs the code before it has looked at the
instance entry.  `errorReply_keeps_iff` says for all methods exactly when an
error reply leaves what the fork answers as it was.
-/

namespace SorobanFork

open Lib

section

variable {X : Xdr}

/-- The reply reports an error: a JSON-RPC error, or a send with status `ERROR`. -/
def RpcReply.ReportsError : RpcReply → Prop
  | .error _ => True
  | .result (.sendTransaction response) => response.status = .error
  | _ => False

/-- The server answers every key as before, and reports the same clock. -/
structure Server.SameAnswers (upstream : Upstream) (server server' : Server X) : Prop where
  view : ∀ key, server'.worker.env.source.view upstream key =
    server.worker.env.source.view upstream key
  ledgerSequence : server'.worker.env.ledgerSequence = server.worker.env.ledgerSequence
  ledgerCloseTime : server'.worker.env.ledgerCloseTime = server.worker.env.ledgerCloseTime

/-- The command, answered with this reply, may have changed entries or the clock. -/
def Command.Changes : (cmd : Command X) → cmd.Reply → Prop
  | .setLedgerEntry _ _ _, _ => True
  | .closeLedgers _ _, _ => True
  | .sendTransaction _ _ _, reply => ∃ value, (SendReply.receipt reply).result = .ok value
  | _, _ => False

/-- An outcome of a handler that is reported as an error. -/
def FailedOutcome (outcome : Except HandlerError Response) : Prop :=
  (RpcReply.of (.ok outcome)).ReportsError

/-- The handler never reports an error after a command that may have changed
something. -/
abbrev ErrorSafe (handler : Handler X Response) (past : Prop) : Prop :=
  Prog.Clean Command.Changes FailedOutcome handler past

end

/-! ## Commands that change nothing -/

namespace Server

variable {X : Xdr} {world : World X} {upstream : Upstream} {server server' : Server X}

theorem SameAnswers.refl (server : Server X) : SameAnswers upstream server server :=
  ⟨fun _ => rfl, rfl, rfl⟩

theorem SameAnswers.trans {s₁ s₂ s₃ : Server X} (first : SameAnswers upstream s₁ s₂)
    (second : SameAnswers upstream s₂ s₃) : SameAnswers upstream s₁ s₃ where
  view key := (second.view key).trans (first.view key)
  ledgerSequence := second.ledgerSequence.trans first.ledgerSequence
  ledgerCloseTime := second.ledgerCloseTime.trans first.ledgerCloseTime

theorem sameAnswers_of_onlyReads (fixed : world.client.Fixed upstream)
    (reads : ForkedEnv.OnlyReads world.client server.worker.env server'.worker.env) :
    SameAnswers upstream server server' where
  view key := by rw [reads.view upstream fixed]
  ledgerSequence := by rw [ForkedEnv.ledgerSequence, reads.ledger, ForkedEnv.ledgerSequence]
  ledgerCloseTime := by rw [ForkedEnv.ledgerCloseTime, reads.ledger, ForkedEnv.ledgerCloseTime]

/-- A command whose reply rules out a change changed nothing. -/
theorem sameAnswers_of_not_changes {cmd : Command X} {reply : cmd.Reply}
    (fixed : world.client.Fixed upstream) (served : server.step world cmd = (.ok reply, server'))
    (quiet : ¬cmd.Changes reply) : SameAnswers upstream server server' := by
  obtain ⟨-, w, ran, rfl⟩ := Server.step_ok_iff.mp served
  apply sameAnswers_of_onlyReads fixed
  by_cases readOnly : cmd.ReadOnly
  · have reads := (Worker.step_onlyReads world server.worker readOnly).1
    rwa [ran] at reads
  cases cmd with
  | setLedgerEntry key entry liveUntil => exact absurd trivial quiet
  | closeLedgers ledgers seconds => exact absurd trivial quiet
  | sendTransaction envelopeBytes hostFunction sourceAccount =>
      obtain ⟨invocation, mid, -, reads, result, ⟨-, same⟩ | ⟨⟨value, succeeded⟩, -⟩⟩ :=
        Worker.step_sendTransaction_ok ran
      · rwa [same]
      · exact absurd ⟨value, result.trans succeeded⟩ quiet
  | _ => exact absurd trivial readOnly

/-- A one-key read replies the entry that the server shows under the key. -/
theorem shown_of_step_getLedgerEntries {key : LedgerKey} {reply : LedgerEntriesReply}
    (fixed : world.client.Fixed upstream)
    (served : server.step world (.getLedgerEntries [key]) = (.ok reply, server')) :
    ∃ value, server.worker.env.source.view upstream key = some value ∧
      reply.single = value.map (·.1) ∧ reply.latestLedger = server.ledgerSequence ∧
      SameAnswers upstream server server' := by
  have reads : SameAnswers upstream server server' := sameAnswers_of_not_changes fixed served id
  obtain ⟨value, cached, found, latest⟩ := step_getLedgerEntries_single served
  refine ⟨value, ?_, found, latest.trans reads.ledgerSequence, reads⟩
  rw [← reads.view]
  exact overlay_of_some cached

/-- A server that did not reply is dead. -/
theorem dead_of_step_error {cmd : Command X} {e : ActorError}
    (failed : server.step world cmd = (.error e, server')) : server'.alive = false := by
  cases alive : server.alive with
  | false =>
      rw [Server.step_of_dead alive] at failed
      cases failed
      exact alive
  | true =>
      simp only [Server.step, alive, if_true] at failed
      rcases ran : server.worker.step world cmd with ⟨panic | r, w⟩
      · rw [ran] at failed
        cases failed
        rfl
      · rw [ran] at failed
        cases failed

end Server

/-! ## Handlers that report no error after a change -/

section

variable {X : Xdr} {world : World X} {wire : Wire X} {past : Prop}

theorem errorSafe_pure {response : Response} (fine : ¬FailedOutcome (.ok response)) :
    ErrorSafe (pure response : Handler X Response) past :=
  Prog.clean_ret fun _ => fine

theorem errorSafe_error {e : HandlerError} (nothing : ¬past) :
    ErrorSafe (decoded (.error e) : Handler X Response) past :=
  Prog.clean_ret fun happened => absurd happened nothing

theorem errorSafe_send {cmd : Command X} {next : cmd.Reply → Handler X Response}
    (rest : ∀ reply, ErrorSafe (next reply) (past ∨ cmd.Changes reply)) :
    ErrorSafe (send cmd >>= next) past :=
  Prog.clean_ask rest

theorem errorSafe_decoded {α : Type} {value : Except HandlerError α}
    {next : α → Handler X Response} (nothing : ¬past)
    (rest : ∀ a, value = .ok a → ErrorSafe (next a) past) :
    ErrorSafe (decoded value >>= next) past := by
  cases value with
  | error e =>
      rw [decoded_error_bind]
      exact errorSafe_error nothing
  | ok a =>
      rw [decoded_ok_bind]
      exact rest a rfl

/-- A send that failed changed nothing; its status is `ERROR` just then. -/
theorem errorSafe_handleSendTransaction (params : wire.Json) :
    ErrorSafe (handleSendTransaction wire params) False := by
  apply errorSafe_decoded id
  intro request _
  apply errorSafe_send
  intro sent
  apply errorSafe_send
  intro latest
  apply errorSafe_send
  intro page
  rcases result : (SendReply.receipt sent).result with message | value
  · apply Prog.clean_ret
    intro changed
    simp only [Command.Changes, result, reduceCtorEq, exists_false, or_false] at changed
  · exact errorSafe_pure fun failed => by cases failed

theorem errorSafe_setClassicBalance (request : BalanceRequest) :
    ErrorSafe (setClassicBalance wire request : Handler X Response) False := by
  apply errorSafe_send
  intro existing
  apply errorSafe_decoded (by simp [Command.Changes])
  intro entry _
  apply errorSafe_send
  intro _
  exact errorSafe_pure id

theorem errorSafe_handleSetTokenBalance (request : TokenBalanceRequest) :
    ErrorSafe (handleSetTokenBalance world wire request : Handler X Response) False := by
  apply errorSafe_send
  intro sim
  apply errorSafe_decoded (by simp [Command.Changes])
  intro current _
  apply errorSafe_decoded (by simp [Command.Changes])
  intro delta _
  split
  · exact errorSafe_pure id
  apply errorSafe_decoded (by simp [Command.Changes])
  intro change _
  apply errorSafe_send
  intro sent
  rcases result : (SendReply.receipt sent).result with message | value
  · apply errorSafe_error
    simp only [Command.Changes, result, reduceCtorEq, exists_false, or_false, not_false_eq_true]
  · apply errorSafe_send
    intro latest
    exact errorSafe_pure id

/-- **All methods but `fork_etch`** report no error after a change. -/
theorem errorSafe_dispatch {method : String} (params : wire.Json) (other : method ≠ "fork_etch") :
    ErrorSafe (dispatch world wire method params) False := by
  unfold dispatch
  split
  -- `getHealth` to `getLatestLedger`
  · exact errorSafe_send fun _ => errorSafe_pure id
  · exact errorSafe_send fun _ => errorSafe_pure id
  · exact errorSafe_send fun _ => errorSafe_pure id
  · exact errorSafe_send fun _ => errorSafe_pure id
  -- `getLedgers` to `getTransaction`
  · exact errorSafe_decoded id fun _ _ => errorSafe_send fun _ => errorSafe_pure id
  · exact errorSafe_decoded id fun _ _ => errorSafe_send fun _ => errorSafe_pure id
  · apply errorSafe_decoded id
    intro request _
    apply errorSafe_send
    intro reply
    apply errorSafe_pure
    unfold encodeSimulationReply
    split
    · exact id
    · exact id
  · exact errorSafe_handleSendTransaction params
  · exact errorSafe_decoded id fun _ _ => errorSafe_send fun _ => errorSafe_send fun _ =>
      errorSafe_pure id
  -- the direct writes
  · exact errorSafe_decoded id fun _ _ => errorSafe_send fun _ => errorSafe_send fun _ =>
      errorSafe_pure id
  · exact errorSafe_decoded id fun _ _ => errorSafe_send fun _ => errorSafe_send fun _ =>
      errorSafe_pure id
  · exact errorSafe_decoded id fun _ _ => errorSafe_send fun _ => errorSafe_send fun _ =>
      errorSafe_pure id
  -- `fork_setBalance`
  · apply errorSafe_decoded id
    intro request _
    cases request with
    | inl request => exact errorSafe_setClassicBalance request
    | inr request => exact errorSafe_handleSetTokenBalance request
  · exact absurd rfl other
  -- `fork_closeLedgers`
  · exact errorSafe_decoded id fun _ _ => errorSafe_send fun _ => errorSafe_pure id
  · exact errorSafe_error id

end

/-! ## `fork_etch` -/

/-- The entry is a contract instance. -/
def LedgerEntry.IsInstance (entry : LedgerEntry) : Prop :=
  ∃ cd executable storage, entry.data = .contractData cd ∧
    cd.val = .contractInstance executable storage

/-- The fork answers the instance key of the request with an entry that is not
a contract instance. -/
def BadInstance {X : Xdr} (upstream : Upstream) (request : EtchRequest) (server : Server X) :
    Prop :=
  ∃ entry liveUntil, server.worker.env.source.view upstream request.instanceKey =
    some (some (entry, liveUntil)) ∧ ¬entry.IsInstance

/-- The request is a `fork_etch` over a bad instance, and the code it installs is
not what the fork answers already. -/
def InstallsOverBadInstance {X : Xdr} (world : World X) (wire : Wire X) (upstream : Upstream)
    (method : String) (params : wire.Json) (server : Server X) : Prop :=
  method = "fork_etch" ∧ ∃ request, decodeEtch world wire params = .ok request ∧
    BadInstance upstream request server ∧
    server.worker.env.source.view upstream request.codeWrite.key ≠
      some (some (request.codeWrite.entry, request.codeWrite.liveUntil))

section

variable {X : Xdr} {world : World X} {wire : Wire X} {upstream : Upstream}
  {server server' : Server X}

/-- The storage of a missing entry or of an instance is preserved; any other
entry is refused. -/
theorem preservedStorage_cases (wire : Wire X) (existing : Option LedgerEntry) :
    (∃ storage, preservedStorage wire existing = .ok storage ∧
        ∀ entry, existing = some entry → entry.IsInstance) ∨
      ∃ error entry, preservedStorage wire existing = .error (.rpc error) ∧
        existing = some entry ∧ ¬entry.IsInstance := by
  cases existing with
  | none => exact .inl ⟨none, rfl, fun entry present => by cases present⟩
  | some entry =>
      unfold preservedStorage
      cases data : entry.data with
      | contractData cd =>
          cases val : cd.val with
          | contractInstance executable storage =>
              refine .inl ⟨storage, by simp only [data, val], ?_⟩
              intro entry' present
              cases present
              exact ⟨cd, executable, storage, data, val⟩
          | _ =>
              refine .inr ⟨_, entry, by simp only [data, val]; rfl, rfl, ?_⟩
              rintro ⟨cd', executable, storage, data', val'⟩
              rw [data] at data'
              cases data'
              rw [val] at val'
              cases val'
      | _ =>
          refine .inr ⟨_, entry, by simp only [data]; rfl, rfl, ?_⟩
          rintro ⟨cd', executable, storage, data', val'⟩
          rw [data] at data'
          cases data'

/-- A handler that is safe and reports an error changed nothing. -/
theorem sameAnswers_of_errorSafe (fixed : world.client.Fixed upstream)
    {handler : Handler X Response} (safe : ErrorSafe handler False)
    {outcome : Except ActorError (Except HandlerError Response)}
    (ran : Prog.run (Server.step world) handler server = (outcome, server'))
    (alive : server'.alive = true) (failed : (RpcReply.of outcome).ReportsError) :
    Server.SameAnswers upstream server server' := by
  rcases outcome with e | outcome
  · obtain ⟨cmd, before, query⟩ := Prog.exists_query_of_run_error ran
    rw [Server.dead_of_step_error query] at alive
    cases alive
  · have failed : FailedOutcome outcome := failed
    have quiet (cmd : Command X) (before : Server X) (reply : cmd.Reply) (after : Server X)
        (served : before.step world cmd = (.ok reply, after)) (unchanged : ¬cmd.Changes reply) :
        Server.SameAnswers upstream before after :=
      Server.sameAnswers_of_not_changes fixed served unchanged
    exact (Prog.rel_of_clean (Server.SameAnswers upstream) Server.SameAnswers.refl
      (fun _ _ _ => Server.SameAnswers.trans) quiet safe ran failed).2

/-- The source after an installed code entry shows it, and nothing else new. -/
theorem view_of_step_setLedgerEntry (upstream : Upstream) {write : EntryWrite} {reply : Unit}
    (served : server.step world write.command = (.ok reply, server')) :
    server'.worker.env.source.view upstream =
        Function.update (server.worker.env.source.view upstream) write.key
          (some (some (write.entry, write.liveUntil))) ∧
      server'.worker.env.ledger = server.worker.env.ledger := by
  obtain ⟨-, w, ran, rfl⟩ := Server.step_ok_iff.mp served
  cases ran
  exact ⟨RpcSnapshotSource.view_setEntry _ _ _, rfl⟩

/-- If the server is alive in the end, the first command was answered. -/
theorem reply_of_alive {cmd : Command X} {next : cmd.Reply → Handler X Response}
    {outcome : Except ActorError (Except HandlerError Response)}
    (ran : Prog.run (Server.step world) (send cmd >>= next : Handler X Response) server =
      (outcome, server'))
    (alive : server'.alive = true) :
    ∃ reply s, server.step world cmd = (.ok reply, s) ∧
      Prog.run (Server.step world) (next reply) s = (outcome, server') := by
  rcases Prog.run_ask_cases ran with ⟨e, failed, -⟩ | ⟨reply, s, served, rest⟩
  · rw [Server.dead_of_step_error failed] at alive
    cases alive
  · exact ⟨reply, s, served, rest⟩

/-- If the handler ran to its end, the first command was answered. -/
theorem reply_of_answered {cmd : Command X} {next : cmd.Reply → Handler X Response}
    {outcome : Except HandlerError Response}
    (ran : Prog.run (Server.step world) (send cmd >>= next : Handler X Response) server =
      (.ok outcome, server')) :
    ∃ reply s, server.step world cmd = (.ok reply, s) ∧
      Prog.run (Server.step world) (next reply) s = (.ok outcome, server') := by
  rcases Prog.run_ask_cases ran with ⟨e, -, failed⟩ | ⟨reply, s, served, rest⟩
  · cases failed
  · exact ⟨reply, s, served, rest⟩

/-- A request with a result was handled to its end. -/
theorem run_of_serve_result {method : String} {params : wire.Json} {response : Response}
    (served : serve world wire method params server = (.result response, server')) :
    Prog.run (Server.step world) (dispatch world wire method params) server =
      (.ok (.ok response), server') := by
  unfold serve at served
  rcases ran : Prog.run (Server.step world) (dispatch world wire method params) server with
    ⟨gone | error | response', after⟩
  · rw [ran] at served
    cases served
  · rw [ran] at served
    cases error <;> cases served
  · rw [ran] at served
    cases served
    rfl

/-- **What `fork_etch` does.**  It reports an error exactly over a bad instance,
and has installed the code by then. -/
theorem etch_outcome (fixed : world.client.Fixed upstream) {request : EtchRequest}
    {outcome : Except ActorError (Except HandlerError Response)}
    (ran : Prog.run (Server.step world) (etch wire request) server = (outcome, server'))
    (alive : server'.alive = true) :
    ((RpcReply.of outcome).ReportsError ↔ BadInstance upstream request server) ∧
      (BadInstance upstream request server →
        server'.worker.env.source.view upstream =
            Function.update (server.worker.env.source.view upstream) request.codeWrite.key
              (some (some (request.codeWrite.entry, request.codeWrite.liveUntil))) ∧
          server'.worker.env.ledgerSequence = server.worker.env.ledgerSequence ∧
          server'.worker.env.ledgerCloseTime = server.worker.env.ledgerCloseTime) := by
  rw [etch] at ran
  -- the code is installed
  obtain ⟨_, installed, codeServed, ran⟩ := reply_of_alive ran alive
  obtain ⟨view, ledger⟩ := view_of_step_setLedgerEntry upstream codeServed
  -- the instance is read
  obtain ⟨existing, s, readServed, ran⟩ := reply_of_alive ran alive
  obtain ⟨value, shown, found, -, reads⟩ :=
    Server.shown_of_step_getLedgerEntries fixed readServed
  have other : request.instanceKey ≠ request.codeWrite.key := nofun
  rw [view, Function.update_of_ne other] at shown
  have bad : BadInstance upstream request server ↔
      ∃ entry, existing.single = some entry ∧ ¬entry.IsInstance := by
    rw [BadInstance, shown, found]
    constructor
    · rintro ⟨entry, liveUntil, same, notInstance⟩
      cases same
      exact ⟨entry, rfl, notInstance⟩
    · rintro ⟨entry, present, notInstance⟩
      obtain ⟨⟨_, liveUntil⟩, rfl, rfl⟩ := Option.map_eq_some_iff.mp present
      exact ⟨_, liveUntil, rfl, notInstance⟩
  rw [bad]
  rcases preservedStorage_cases wire existing.single with
    ⟨storage, preserved, instances⟩ | ⟨error, entry, refused, present, notInstance⟩
  -- an instance is pointed at the code
  · rw [preserved] at ran
    obtain ⟨_, s₁, -, ran⟩ := reply_of_alive ran alive
    obtain ⟨_, s₂, -, ran⟩ := reply_of_alive ran alive
    cases ran
    have good : ¬∃ entry, existing.single = some entry ∧ ¬entry.IsInstance := by
      rintro ⟨entry, present, notInstance⟩
      exact notInstance (instances entry present)
    exact ⟨iff_of_false id good, fun impossible => absurd impossible good⟩
  -- anything else is refused
  · rw [refused] at ran
    cases ran
    refine ⟨iff_of_true trivial ⟨entry, present, notInstance⟩, fun _ => ⟨?_, ?_, ?_⟩⟩
    · funext key
      rw [reads.view, view]
    · rw [reads.ledgerSequence, ForkedEnv.ledgerSequence, ledger, ForkedEnv.ledgerSequence]
    · rw [reads.ledgerCloseTime, ForkedEnv.ledgerCloseTime, ledger, ForkedEnv.ledgerCloseTime]

/-- A request that installs over a bad instance is a `fork_etch` with these parameters. -/
theorem installsOverBadInstance_etch {params : wire.Json} {request : EtchRequest}
    (decodes : decodeEtch world wire params = .ok request) :
    InstallsOverBadInstance world wire upstream "fork_etch" params server ↔
      BadInstance upstream request server ∧
        server.worker.env.source.view upstream request.codeWrite.key ≠
          some (some (request.codeWrite.entry, request.codeWrite.liveUntil)) := by
  constructor
  · rintro ⟨-, request', decodes', installs⟩
    rw [decodes] at decodes'
    cases decodes'
    exact installs
  · intro installs
    exact ⟨rfl, request, decodes, installs⟩

/-- The equivalence for a `fork_etch` whose parameters decode. -/
theorem etch_keeps_iff (fixed : world.client.Fixed upstream) {params : wire.Json}
    {request : EtchRequest} (decodes : decodeEtch world wire params = .ok request)
    {outcome : Except ActorError (Except HandlerError Response)}
    (ran : Prog.run (Server.step world) (etch wire request) server = (outcome, server'))
    (alive : server'.alive = true) :
    ((RpcReply.of outcome).ReportsError → Server.SameAnswers upstream server server') ↔
      ¬InstallsOverBadInstance world wire upstream "fork_etch" params server := by
  obtain ⟨reports, effect⟩ := etch_outcome fixed ran alive
  rw [installsOverBadInstance_etch decodes, reports]
  by_cases bad : BadInstance upstream request server
  · obtain ⟨view, sequence, closeTime⟩ := effect bad
    constructor
    · rintro keeps ⟨-, new⟩
      apply new
      rw [← (keeps bad).view, view, Function.update_self]
    · intro noNews _
      have held := not_not.mp fun new => noNews ⟨bad, new⟩
      refine ⟨fun key => ?_, sequence, closeTime⟩
      rw [view, ← held, Function.update_eq_self]
  · exact iff_of_true (fun isBad => absurd isBad bad) fun installs => bad installs.1

/-- **When an error reply means that nothing happened.**  For every method and
all parameters, a request that is answered by an error leaves every answer and
the clock as they were, unless it is a `fork_etch` that installs new code over a
bad instance. -/
theorem errorReply_keeps_iff (world : World X) (wire : Wire X) (upstream : Upstream)
    (fixed : world.client.Fixed upstream) (method : String) (params : wire.Json)
    (server : Server X) (alive : (serve world wire method params server).2.alive = true) :
    ((serve world wire method params server).1.ReportsError →
        Server.SameAnswers upstream server (serve world wire method params server).2) ↔
      ¬InstallsOverBadInstance world wire upstream method params server := by
  rcases ran : Prog.run (Server.step world) (dispatch world wire method params) server with
    ⟨outcome, server'⟩
  have served : serve world wire method params server = (.of outcome, server') := by
    rw [serve, ran]
  rw [served] at alive ⊢
  by_cases other : method = "fork_etch"
  · subst other
    cases decodes : decodeEtch world wire params with
    | error e =>
        have refused : dispatch world wire "fork_etch" params = Prog.ret (.error e) := by
          rw [dispatch_fork_etch, handleForkEtch, decodes, decoded_error_bind]
        rw [refused] at ran
        cases ran
        apply iff_of_true
        · intro _
          exact .refl server
        · rintro ⟨-, request, decodes', -⟩
          rw [decodes] at decodes'
          cases decodes'
    | ok request =>
        rw [dispatch_etch_of_decoded decodes] at ran
        exact etch_keeps_iff fixed decodes ran alive
  · apply iff_of_true
    · exact sameAnswers_of_errorSafe fixed (errorSafe_dispatch params other) ran alive
    · rintro ⟨isEtch, -⟩
      exact other isEtch

end

/-! ## A run -/

namespace Sample

/-- Texts for the key of the instance, a value that is no instance, and a code. -/
def etchWire : Wire xdr :=
  wire [("instance", .scVal .ledgerKeyContractInstance), ("void", .scVal .void),
    ("wasm", .raw [0, 97, 115, 109])]

/-- The fork after `fork_setStorage` wrote a void under the instance key of the contract. -/
def overwritten : RpcReply × Server xdr :=
  serve world etchWire "fork_setStorage"
    (.setStorage ⟨"C1", "instance", "void", some .persistent, none⟩) (server [])

def etchParams : Json := .etch ⟨"C1", "wasm", none⟩

/-- The fork after `fork_etch` on that contract. -/
def etched : RpcReply × Server xdr :=
  serve world etchWire "fork_etch" etchParams overwritten.2

/-- The key of the code it was to install. -/
def etchedKey : LedgerKey :=
  .contractCode (world.sha256 (.raw [0, 97, 115, 109]))

def absentUpstream : Upstream := fun key => .ok (upstream key)

end Sample

open Sample in
/-- `fork_etch` reports an error, and the code entry is there afterwards. -/
theorem failed_etch_installs_code :
    overwritten.1 = .result (.setLedgerEntry ⟨true, 100⟩) ∧
      etched.1.ReportsError ∧ etched.2.alive = true ∧
      overwritten.2.worker.env.source.view absentUpstream etchedKey = some none ∧
      etched.2.worker.env.source.view absentUpstream etchedKey =
        some (some ((contractCodeWrite (world.sha256 (.raw [0, 97, 115, 109]))
          [0, 97, 115, 109] none).entry, none)) ∧
      ¬Server.SameAnswers absentUpstream overwritten.2 etched.2 := by
  have before : overwritten.2.worker.env.source.view absentUpstream etchedKey = some none := by
    decide
  have after : etched.2.worker.env.source.view absentUpstream etchedKey =
      some (some ((contractCodeWrite (world.sha256 (.raw [0, 97, 115, 109]))
        [0, 97, 115, 109] none).entry, none)) := by
    decide
  refine ⟨rfl, trivial, rfl, before, after, fun same => ?_⟩
  have unchanged := same.view etchedKey
  rw [before, after] at unchanged
  cases unchanged

open Sample in
theorem errorReply_keeps_iff_etched :
    ((serve world etchWire "fork_etch" etchParams overwritten.2).1.ReportsError →
        Server.SameAnswers absentUpstream overwritten.2
          (serve world etchWire "fork_etch" etchParams overwritten.2).2) ↔
      ¬InstallsOverBadInstance world etchWire absentUpstream "fork_etch" etchParams
        overwritten.2 :=
  errorReply_keeps_iff world etchWire absentUpstream fixed "fork_etch" etchParams overwritten.2 rfl

end SorobanFork
