import SorobanFork.Lib.Channel
import SorobanFork.Sample
import SorobanFork.Server.Concurrent
import SorobanFork.Server.JsonRpc

/-!
# Requests behind the channel (`server/actor.rs`)

The tasks of the HTTP server reach the worker thread through a channel of 32
commands, each with a slot for its reply (`ActorHandle::send`, `spawn`).  A task
may be dropped when its client hangs up, and the thread may panic.

* `exists_schedule_of_run`, `exists_run_of_schedule`: what the server does behind
  the channel is what it does in the interleavings of `concurrently`, so what is
  proved about these holds of the running server.
* `reply_conforms`: every reply is a JSON-RPC response to its request.
* `commands_in_order`: commands are executed once each, in the order they were sent.
* `requests_finish`: no request waits for good, whatever the others do.
* `after_panic`: once the worker is gone, nothing changes and nobody waits.
-/

namespace SorobanFork

open Lib

/-- `mpsc::channel(32)`. -/
def channelCapacity : Nat := 32

section

variable {X : Xdr} {κ : Type}

/-- The worker thread, as what is behind the channel. -/
def Server.service (world : World X) :
    Service (Command X) Command.Reply ActorError (Server X) where
  serve := Server.step world
  alive := Server.alive
  gone := .workerGone
  alive_of_ok stepped := by
    obtain ⟨-, w, -, rfl⟩ := Server.step_ok_iff.mp stepped
    rfl
  gone_of_error {cmd server e server'} failed := by
    unfold Server.step at failed
    split at failed
    · split at failed
      · cases failed
      · cases failed
        exact ⟨rfl, rfl⟩
    case isFalse dead =>
      cases failed
      exact ⟨rfl, Bool.eq_false_iff.mpr dead⟩
  serve_dead dead := Server.step_of_dead dead

variable {wire : Wire X}

/-- The requests as clients of the worker. -/
def answering (world : World X) (requests : κ → JsonRpcRequest wire) (server : Server X) :
    Clients κ (Command X) Command.Reply ActorError (Server X) (HttpReply wire) where
  progs k := .ok (jsonrpcHandler world (requests k))
  server := server

/-- The requests behind the channel, before any of them has sent a command. -/
def accepted (world : World X) (requests : κ → JsonRpcRequest wire) (server : Server X) :
    Channel κ (Command X) Command.Reply ActorError (Server X) (HttpReply wire) :=
  .ofClients (answering world requests server)

/-- What happens behind the channel. -/
abbrev ChannelRun [DecidableEq κ] (world : World X) :
    List (Channel.Event κ (Command X)) →
      Channel κ (Command X) Command.Reply ActorError (Server X) (HttpReply wire) →
      Channel κ (Command X) Command.Reply ActorError (Server X) (HttpReply wire) → Prop :=
  Channel.Run (Server.service world) channelCapacity

/-- What the client of a request has received. -/
def received (requests : κ → JsonRpcRequest wire)
    (c : Channel κ (Command X) Command.Reply ActorError (Server X) (HttpReply wire)) (k : κ) :
    Option (HttpReply wire) :=
  (c.tasks k).outcome.map (HttpReply.received (requests k))

/-- The method and the parameters of each request. -/
def asked (requests : κ → JsonRpcRequest wire) (k : κ) : String × wire.Json :=
  ((requests k).method, (requests k).params)

variable {world : World X} {requests : κ → JsonRpcRequest wire} {server : Server X}

/-! ## Requests and handlers -/

/-- The requests of the right version are handled as `concurrently` has it. -/
theorem maps_answering (world : World X) (requests : κ → JsonRpcRequest wire)
    (server : Server X) :
    Clients.Maps (fun k outcome => HttpReply.of (requests k).id (.of (.ok outcome)))
      (fun k => (requests k).jsonrpc = "2.0")
      (concurrently world wire (asked requests) server) (answering world requests server) where
  server := rfl
  progs _ version := congrArg Except.ok (jsonrpcHandler_of_version world version)

theorem atMost_dispatch (method : String) (params : wire.Json) :
    Prog.AtMost (dispatch world wire method params) 4 := by
  by_cases known : method ∈ methods
  · exact (conforms_dispatch known).1
  · rw [dispatch_of_not_mem known]
    trivial

theorem atMost_jsonrpcHandler (request : JsonRpcRequest wire) :
    (jsonrpcHandler world request).AtMost 4 := by
  by_cases version : request.jsonrpc = "2.0"
  · rw [jsonrpcHandler_of_version world version]
    exact (atMost_dispatch _ _).bind (m := 0) fun _ => trivial
  · rw [jsonrpcHandler_of_other world version]
    trivial

/-- A request that sends nothing, and so never has a turn. -/
def JsonRpcRequest.Silent (request : JsonRpcRequest wire) : Prop :=
  request.jsonrpc ≠ "2.0" ∨ request.method ∉ methods

theorem JsonRpcRequest.Silent.ret (world : World X) {request : JsonRpcRequest wire}
    (silent : request.Silent) :
    ∃ reply, jsonrpcHandler world request = .ret reply := by
  by_cases version : request.jsonrpc = "2.0"
  · rw [jsonrpcHandler_of_version world version,
      dispatch_of_not_mem (silent.resolve_left (not_not_intro version))]
    exact ⟨_, rfl⟩
  · rw [jsonrpcHandler_of_other world version]
    exact ⟨_, rfl⟩

variable [DecidableEq κ] {es : List (Channel.Event κ (Command X))}
  {c c' : Channel κ (Command X) Command.Reply ActorError (Server X) (HttpReply wire)}

theorem JsonRpcRequest.Silent.not_mem_turns {k : κ} (silent : (requests k).Silent)
    (ran : ChannelRun world es (accepted world requests server) c) :
    k ∉ es.flatMap Channel.Event.turns := by
  obtain ⟨reply, ended⟩ := silent.ret world
  exact (Channel.owes_ofClients_of_ret (a := answering world requests server)
    (congrArg Except.ok ended)).not_mem_turns (Channel.wellFormed_ofClients _) ran

theorem wellFormed_of_run (ran : ChannelRun world es (accepted world requests server) c) :
    c.WellFormed (Server.service world) channelCapacity :=
  (Channel.wellFormed_ofClients _).run ran

/-! ## Behind the channel as in the interleavings -/

/-- A request of another version is turned down; one of the right version got what
its handler ended with in the interleaving. -/
def RepliesAs (requests : κ → JsonRpcRequest wire)
    (reached : Clients κ (Command X) Command.Reply ActorError (Server X)
      (Except HandlerError Response)) (k : κ) (reply : HttpReply wire) : Prop :=
  if (requests k).jsonrpc = "2.0" then
    ∃ outcome, reached.progs k = outcome.map .ret ∧
      reply = .of (requests k).id (.of outcome)
  else reply = .badRequest s!"unsupported jsonrpc version: {(requests k).jsonrpc}"

theorem schedule_of_run (ran : ChannelRun world es (accepted world requests server) c) :
    let reached := Clients.run (Server.step world) (es.flatMap Channel.Event.turns)
      (concurrently world wire (asked requests) server)
    c.server = reached.server ∧
      ∀ k reply, received requests c k = some reply → RepliesAs requests reached k reply := by
  intro reached
  have wf : (accepted world requests server).WellFormed (Server.service world) channelCapacity :=
    Channel.wellFormed_ofClients _
  have related := (Channel.simulates_ofClients (answering world requests server)).run wf ran
  have current : ∀ k ∈ es.flatMap Channel.Event.turns, (requests k).jsonrpc = "2.0" := by
    intro k mem
    by_contra version
    exact JsonRpcRequest.Silent.not_mem_turns (.inl version) ran mem
  have maps := (maps_answering world requests server).run (Server.step world) current
  refine ⟨related.server.symm.trans maps.server, fun k reply got => ?_⟩
  obtain ⟨out, ended, rfl⟩ := Option.map_eq_some_iff.mp got
  have answered : (Clients.run (Server.step world) (es.flatMap Channel.Event.turns)
      (answering world requests server)).progs k = out.map .ret := related.outcome ended
  unfold RepliesAs
  split
  case isTrue version =>
    have same := maps.progs k version
    rw [answered] at same
    change _ = (reached.progs k).map _ at same
    rcases at_k : reached.progs k with gone | p
    · rw [at_k] at same
      cases out with
      | error gone' =>
          cases same
          exact ⟨.error gone, rfl, rfl⟩
      | ok reply => cases same
    · rw [at_k] at same
      cases out with
      | error gone => cases same
      | ok reply =>
          cases p with
          | ret outcome =>
              cases same
              exact ⟨.ok outcome, rfl, rfl⟩
          | ask cmd next => cases same
  case isFalse version =>
    have still := Clients.progs_run_of_not_mem (Server.step world)
      (c := answering world requests server)
      (JsonRpcRequest.Silent.not_mem_turns (.inl version) ran)
    have refused : (answering world requests server).progs k = .ok (.ret (.badRequest _)) :=
      congrArg Except.ok (jsonrpcHandler_of_other world version)
    rw [answered, refused] at still
    cases out with
    | error gone => cases still
    | ok reply =>
        cases still
        rfl

end

namespace Sample

def post (texts : List (String × Buf)) (method : String) (params : Json) :
    JsonRpcRequest (wire texts) where
  jsonrpc := "2.0"
  id := .null
  method := method
  params := params

/-- One request reads the ledger, another closes one. -/
abbrev clock : Bool → JsonRpcRequest (wire [])
  | true => post [] "getLatestLedger" .null
  | false => post [] "fork_closeLedgers" .null

/-- The second command is sent while the first is executed. -/
def clockEvents : List (Channel.Event Bool (Command xdr)) :=
  [.sent true .getLatestLedger, .taken true, .sent false (.closeLedgers 1 5),
    .served true .getLatestLedger, .taken false, .served false (.closeLedgers 1 5),
    .resumed false, .resumed true]

theorem run_clock : ∃ c, ChannelRun world clockEvents (accepted world clock (server [])) c ∧
    received clock c true =
      some (.json (.ok .null (.latestLedger ⟨"forked-ledger-100", 100, 25⟩))) := by
  have start : ChannelRun world [] (accepted world clock (server [])) _ := .nil
  have sent := start.snoc (.send (k := true) (q := .getLatestLedger) rfl rfl (by decide))
  have taken := sent.snoc (.take rfl rfl)
  have second := taken.snoc (.send (k := false) (q := .closeLedgers 1 5) rfl rfl (by decide))
  have served := second.snoc (.serve rfl rfl)
  have both := (served.snoc (.take rfl rfl)).snoc (.serve rfl rfl)
  have ended := (both.snoc (.resume (k := false) rfl)).snoc (.resume (k := true) rfl)
  exact ⟨_, ended, rfl⟩

end Sample

section

variable {X : Xdr} {κ : Type} [DecidableEq κ] {wire : Wire X} {world : World X}
  {requests : κ → JsonRpcRequest wire} {server : Server X}
  {es : List (Channel.Event κ (Command X))}
  {c c' : Channel κ (Command X) Command.Reply ActorError (Server X) (HttpReply wire)}

/-- **What happens behind the channel is an interleaving.**  Whatever the tasks send,
wait for and drop, and wherever the worker panics: its state is that of some
interleaving of the handlers, and so is every reply that was received. -/
theorem exists_schedule_of_run (ran : ChannelRun world es (accepted world requests server) c) :
    ∃ schedule reached,
      Clients.run (Server.step world) schedule (concurrently world wire (asked requests) server) =
        reached ∧
      c.server = reached.server ∧
      ∀ k reply, received requests c k = some reply → RepliesAs requests reached k reply :=
  ⟨_, _, rfl, schedule_of_run ran⟩

theorem exists_schedule_of_run_clock :
    ∃ schedule c, c.server = (Clients.run (Server.step Sample.world) schedule
        (concurrently Sample.world (Sample.wire []) (asked Sample.clock)
          (Sample.server []))).server ∧
      ChannelRun Sample.world Sample.clockEvents
        (accepted Sample.world Sample.clock (Sample.server [])) c := by
  obtain ⟨c, ran, -⟩ := Sample.run_clock
  obtain ⟨schedule, _, rfl, server, -⟩ := exists_schedule_of_run ran
  exact ⟨schedule, c, server, ran⟩

/-- **Every interleaving happens behind the channel**, with the replies of its
handlers. -/
theorem exists_run_of_schedule (version : ∀ k, (requests k).jsonrpc = "2.0")
    (schedule : List κ) :
    let reached := Clients.run (Server.step world) schedule
      (concurrently world wire (asked requests) server)
    ∃ es c, ChannelRun world es (accepted world requests server) c ∧ c.server = reached.server ∧
      ∀ k outcome, reached.progs k = outcome.map .ret →
        received requests c k = some (.of (requests k).id (.of outcome)) := by
  intro reached
  obtain ⟨es, ran⟩ : ∃ es, ChannelRun world es (accepted world requests server)
      (.ofClients (Clients.run (Server.step world) schedule (answering world requests server))) :=
    Channel.exists_run_of_turns (by decide) schedule _
  have current : ∀ k ∈ schedule, (requests k).jsonrpc = "2.0" := fun k _ => version k
  have maps := (maps_answering world requests server).run (Server.step world) current
  refine ⟨es, _, ran, maps.server, fun k outcome ended => ?_⟩
  have answered := maps.progs k (version k)
  rw [show (Clients.run (Server.step world) schedule
    (concurrently world wire (asked requests) server)).progs k = outcome.map .ret from ended]
    at answered
  have task := Channel.tasks_ofClients (Clients.run (Server.step world) schedule
    (answering world requests server)) k
  rw [answered] at task
  cases outcome with
  | error gone => exact congrArg (fun t => (t.outcome.map (HttpReply.received (requests k)))) task
  | ok outcome => exact congrArg (fun t => (t.outcome.map (HttpReply.received (requests k)))) task

theorem exists_run_of_schedule_clock :
    ∃ es c, ChannelRun Sample.world es
        (accepted Sample.world Sample.clock (Sample.server [])) c ∧
      received Sample.clock c true =
        some (.json (.ok .null (.latestLedger ⟨"forked-ledger-101", 101, 25⟩))) := by
  obtain ⟨es, c, ran, -, replies⟩ :=
    @exists_run_of_schedule Sample.xdr Bool _ _ Sample.world Sample.clock (Sample.server [])
      (by decide) [false, true]
  exact ⟨es, c, ran, replies true (.ok (.ok _)) rfl⟩

/-! ## Replies -/

/-- A response to the request: it has the id of the request, and a result or an
error but not both; the codes are those of the specification. -/
structure Server.JsonRpcResponse.Conforms (request : JsonRpcRequest wire)
    (body : Server.JsonRpcResponse wire) : Prop where
  jsonrpc : body.jsonrpc = "2.0"
  id : body.id = request.id
  one : body.result.isSome ↔ body.error = none
  unknown : (∃ e, body.error = some e ∧ e.code = -32601) ↔ request.method ∉ methods
  codes : ∀ e, body.error = some e → e.code = -32601 ∨ e.code = -32602 ∨ e.code = -32603

/-- What a client may receive for its request. -/
def HttpReply.Conforms (world : World X) (request : JsonRpcRequest wire) :
    HttpReply wire → Prop
  | .badRequest error =>
    request.jsonrpc ≠ "2.0" ∧ error = s!"unsupported jsonrpc version: {request.jsonrpc}"
  | .json body => request.jsonrpc = "2.0" ∧ body.Conforms request
  | .closed =>
    request.jsonrpc = "2.0" ∧ request.method = "fork_setBalance" ∧ world.overflowChecks = true

/-- What a handler may end with. -/
def Standard (world : World X) (method : String) (outcome : Except HandlerError Response) :
    Prop :=
  if method ∈ methods then
    ∀ e, outcome = .error e →
      e.Standard (method = "fork_setBalance" ∧ world.overflowChecks = true)
  else outcome = .error (.rpc (.methodNotFound method))

theorem meets_dispatch (method : String) (params : wire.Json) :
    Prog.Meets (fun _ => True) (fun _ _ => True) (Standard world method)
      (dispatch world wire method params) := by
  unfold Standard
  by_cases known : method ∈ methods
  · simp only [if_pos known]
    exact (conforms_dispatch known).2
  · simp only [if_neg known]
    rw [dispatch_of_not_mem known]
    exact rfl

theorem conforms_of_standard {request : JsonRpcRequest wire} (version : request.jsonrpc = "2.0")
    {outcome : Except HandlerError Response} (standard : Standard world request.method outcome) :
    (HttpReply.of request.id (.of (.ok outcome))).Conforms world request := by
  unfold Standard at standard
  split at standard
  case isTrue known =>
    rcases outcome with (e | message) | response
    · have code := standard _ rfl
      refine ⟨version, rfl, rfl, by simp [Server.JsonRpcResponse.err], ?_, ?_⟩
      · refine iff_of_false ?_ (not_not_intro known)
        rintro ⟨e', same, notFound⟩
        cases same
        rcases code with code | code <;> rw [notFound] at code <;> cases code
      · intro e' same
        cases same
        exact .inr code
    · exact ⟨version, standard _ rfl⟩
    · refine ⟨version, rfl, rfl, by simp [Server.JsonRpcResponse.ok], ?_, nofun⟩
      refine iff_of_false ?_ (not_not_intro known)
      rintro ⟨e, same, -⟩
      cases same
  case isFalse unknown =>
    cases standard
    refine ⟨version, rfl, rfl, by simp [Server.JsonRpcResponse.err], ?_, ?_⟩
    · exact iff_of_true ⟨_, rfl, rfl⟩ unknown
    · intro e same
      cases same
      exact .inl rfl

/-- **Every reply conforms**, in every run and whatever becomes of the worker. -/
theorem reply_conforms (ran : ChannelRun world es (accepted world requests server) c) {k : κ}
    {reply : HttpReply wire} (got : received requests c k = some reply) :
    reply.Conforms world (requests k) := by
  obtain ⟨-, replies⟩ := schedule_of_run ran
  have as := replies k reply got
  unfold RepliesAs at as
  split at as
  case isFalse version =>
    subst as
    exact ⟨version, rfl⟩
  case isTrue version =>
    obtain ⟨outcome, ended, rfl⟩ := as
    cases outcome with
    | ok outcome =>
        have meets : ∀ k p, (concurrently world wire (asked requests) server).progs k = .ok p →
            p.Meets (fun _ => True) (fun _ _ => True) (Standard world (requests k).method) := by
          intro k p progs
          cases progs
          exact meets_dispatch _ _
        obtain ⟨-, meets⟩ := Clients.run_meets (Server.step world) (fun _ => True)
          (fun _ _ _ => ⟨trivial, fun _ _ => trivial⟩) (es.flatMap Channel.Event.turns) trivial
          meets
        exact conforms_of_standard version (meets k _ ended)
    | error gone =>
        -- only a request that sent a command can find the worker gone
        have known : (requests k).method ∈ methods := by
          by_contra unknown
          have still := Clients.progs_run_of_not_mem (Server.step world)
            (c := concurrently world wire (asked requests) server)
            (JsonRpcRequest.Silent.not_mem_turns (.inr unknown) ran)
          rw [ended] at still
          cases still
        refine ⟨version, rfl, rfl, by simp [Server.JsonRpcResponse.err], ?_, ?_⟩
        · refine iff_of_false ?_ (not_not_intro known)
          rintro ⟨e, same, notFound⟩
          cases same
          cases notFound
        · intro e same
          cases same
          exact .inr (.inr rfl)

theorem reply_conforms_clock :
    (HttpReply.json (.ok .null (.latestLedger ⟨"forked-ledger-100", 100, 25⟩)) :
      HttpReply (Sample.wire [])).Conforms Sample.world (Sample.clock true) := by
  obtain ⟨c, ran, got⟩ := Sample.run_clock
  exact reply_conforms ran got

/-! ## Commands -/

/-- **Commands are executed once each, in the order they were sent**: what was sent
is what was executed, what a panic dropped, and what is still pending, in this order.
At most 32 wait in the channel, and no request has two. -/
theorem commands_in_order (ran : ChannelRun world es (accepted world requests server) c) :
    (∃ dropped, es.flatMap Channel.Event.sends =
        es.flatMap Channel.Event.executes ++ dropped ++ c.pending.map Channel.Message.tag ∧
      (c.server.alive = true → dropped = [])) ∧
    c.queue.length ≤ channelCapacity ∧
    (c.pending.map Channel.Message.client).Nodup ∧
    c.server = (es.flatMap Channel.Event.executes).foldl
      (fun server command => (server.step world command.2).2) server := by
  have wf := wellFormed_of_run ran
  obtain ⟨dropped, law, none⟩ := ran.conserves (Channel.wellFormed_ofClients _)
  refine ⟨⟨dropped, ?_, none⟩, wf.bounded, wf.nodup, ran.server_eq⟩
  rw [← law]
  rfl

theorem commands_in_order_clock :
    ∃ c, ChannelRun Sample.world Sample.clockEvents
        (accepted Sample.world Sample.clock (Sample.server [])) c ∧
      c.queue.length ≤ channelCapacity := by
  obtain ⟨c, ran, -⟩ := Sample.run_clock
  exact ⟨c, ran, (commands_in_order ran).2.1⟩

theorem owes_accepted (k : κ) : (accepted world requests server).Owes k 17 :=
  Channel.owes_ofClients (n := 4) rfl (atMost_jsonrpcHandler (requests k))

/-- A request has at most 17 events before it, wherever it is. -/
theorem owes_of_run (ran : ChannelRun world es (accepted world requests server) c) (k : κ) :
    c.Owes k 17 := by
  obtain ⟨N, owes, le⟩ := (owes_accepted k).run (Channel.wellFormed_ofClients _) ran
  exact owes.mono (by omega)

/-- **No request waits for good.**  Of `n` requests a run has at most `17 * n` events;
where no task can move but by hanging up, all are over, and all their commands are
answered; and from anywhere this can be reached without any of them hanging up. -/
theorem requests_finish [Fintype κ]
    (ran : ChannelRun world es (accepted world requests server) c) :
    es.length ≤ 17 * Fintype.card κ ∧
    ((∀ e c', Channel.Step (Server.service world) channelCapacity e c c' →
      ∃ k, e = .hungUp k) → c.Settled) ∧
    ∃ es' c', ChannelRun world es' c c' ∧ c'.Settled ∧ ∀ k, .hungUp k ∉ es' := by
  have start : (accepted world requests server).WellFormed (Server.service world)
      channelCapacity := Channel.wellFormed_ofClients _
  have wf := wellFormed_of_run ran
  refine ⟨?_, fun stuck => ⟨fun k => ?_, ?_⟩, ?_⟩
  · have le := ran.length_le start owes_accepted
    rw [Finset.sum_const_nat fun _ _ => rfl, Finset.card_univ, Nat.mul_comm] at le
    exact le
  · by_contra active
    obtain ⟨e, c', step, stays⟩ := Channel.exists_step (by decide) wf active
    obtain ⟨j, left⟩ := stuck e c' step
    exact stays j left
  · by_contra busy
    obtain ⟨e, c', step, stays⟩ : ∃ e c',
        Channel.Step (Server.service world) channelCapacity e c c' ∧
        ∀ j, e ≠ .hungUp j := Channel.exists_step_of_pending busy
    obtain ⟨j, left⟩ := stuck e c' step
    exact stays j left
  · exact Channel.exists_run_settled (by decide) wf (owes_of_run ran)

theorem requests_finish_clock :
    ∃ c, ChannelRun Sample.world Sample.clockEvents
        (accepted Sample.world Sample.clock (Sample.server [])) c ∧
      ∃ es' c', ChannelRun Sample.world es' c c' ∧ c'.Settled ∧ ∀ k, .hungUp k ∉ es' := by
  obtain ⟨c, ran, -⟩ := Sample.run_clock
  exact ⟨c, ran, (requests_finish ran).2.2⟩

/-- **After a panic** nothing is executed and nothing changes; a task that was about
to send a command fails with the worker gone, if it is not dropped, and once all is
settled it has failed. -/
theorem after_panic (ran : ChannelRun world es (accepted world requests server) c)
    (dead : c.server.alive = false) {es' : List (Channel.Event κ (Command X))}
    (later : ChannelRun world es' c c') :
    c.pending = [] ∧ c'.server = c.server ∧ es'.flatMap Channel.Event.executes = [] ∧
    ∀ k cmd next, c.tasks k = .running (.ask cmd next) →
      let gone : HttpReply wire := .json (.err (requests k).id
        (.internalError "worker thread is no longer running"))
      (∀ reply, received requests c' k = some reply → reply = gone) ∧
      (c'.Settled → c'.tasks k ≠ .hungUp → received requests c' k = some gone) := by
  have wf := wellFormed_of_run ran
  obtain ⟨same, none, -, lost⟩ := later.of_dead wf dead
  refine ⟨wf.closed dead, same, none, fun k cmd next asks => ?_⟩
  rcases lost k cmd next asks with stays | failed | left
  · refine ⟨fun reply got => ?_, fun settled _ => ?_⟩
    · rw [received, stays] at got
      cases got
    · have isOver := settled.1 k
      rw [stays] at isOver
      exact isOver.elim
  · have got : received requests c' k = some (.json (.err (requests k).id
        (.internalError "worker thread is no longer running"))) := by
      rw [received, failed]
      rfl
    refine ⟨fun reply same => ?_, fun _ _ => got⟩
    rw [got] at same
    exact (Option.some.inj same).symm
  · refine ⟨fun reply got => ?_, fun _ stayed => absurd left stayed⟩
    rw [received, left] at got
    cases got

end

namespace Sample

/-- A gateway that does not answer. -/
def offline : World xdr := { world with client := fun _ _ => .error (.transport "timeout") }

/-- One request reads an entry, which makes the worker panic; another the ledger. -/
abbrev missing : Bool → JsonRpcRequest (wire [("K", .ledgerKey (.account (account 1)))])
  | true => post _ "getLedgerEntries" (.getLedgerEntries ⟨["K"]⟩)
  | false => post _ "getLatestLedger" .null

theorem run_missing : ∃ es es' c c',
    ChannelRun offline es (accepted offline missing (server [])) c ∧ c.server.alive = false ∧
      ChannelRun offline es' c c' ∧
      c.tasks false = .running (jsonrpcHandler offline (missing false)) ∧
      c'.Settled ∧ c'.tasks false ≠ .hungUp := by
  have start : ChannelRun offline [] (accepted offline missing (server [])) _ := .nil
  have sent := start.snoc
    (.send (k := true) (q := .getLedgerEntries [.account (account 1)]) rfl rfl (by decide))
  have ended := (sent.snoc (.take rfl rfl)).snoc (.finish rfl rfl)
  refine ⟨_, _, _, _, ended, rfl, (Channel.Run.nil.snoc
    (.refuse (k := false) (q := .getLatestLedger) rfl rfl)).snoc (.fail (k := true) rfl), rfl,
    ⟨fun k => ?_, rfl⟩, nofun⟩
  cases k with
  | true => trivial
  | false => trivial

end Sample

theorem after_panic_missing :
    ∃ c : Channel Bool (Command Sample.xdr) Command.Reply ActorError (Server Sample.xdr)
        (HttpReply (Sample.wire [("K", .ledgerKey (.account (Sample.account 1)))])),
      received Sample.missing c false =
        some (.json (.err .null (.internalError "worker thread is no longer running"))) := by
  obtain ⟨es, es', c, c', ran, dead, later, asks, settled, stayed⟩ := Sample.run_missing
  obtain ⟨-, -, -, lost⟩ := after_panic ran dead later
  exact ⟨c', (lost false _ _ asks).2 settled stayed⟩

end SorobanFork
