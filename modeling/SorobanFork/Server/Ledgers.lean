import SorobanFork.LedgerMetadata
import SorobanFork.Server.Channel

/-!
# The ledger in a reply

Every response but two carries the number of the latest ledger.  A handler has it
from the reply to one of its commands, and other requests may close ledgers before
and after that command.

* `shows_dispatch`: a handler tells no ledger but one that the worker told it.
* `reply_shows_ledger`: in every interleaving, the ledger in a response is the one
  the fork was at in some moment after the request had come.
* `ledgers_in_order`: behind the channel, a request that comes after a response was
  received is told no earlier ledger.
-/

namespace SorobanFork

open Lib

/-- The number of the latest ledger, as a response has it. -/
def Response.ledger : Response → Option UInt32
  | .health body => some body.latestLedger
  | .versionInfo _ => none
  | .network _ => none
  | .latestLedger body => some body.sequence
  | .ledgers body => some body.latestLedger
  | .ledgerEntries body => some body.latestLedger
  | .simulateTransaction body => some body.latestLedger
  | .sendTransaction body => some body.latestLedger
  | .getTransaction body => some body.latestLedger
  | .setLedgerEntry body => some body.latestLedger
  | .closeLedgers body => some body.newSequence
  | .setCode body => some body.latestLedger
  | .setBalance body => some body.latestLedger

/-- The number of the latest ledger, as a reply of the worker has it. -/
def Command.ledger {X : Xdr} : (cmd : Command X) → cmd.Reply → Option UInt32
  | .getLatestLedger, reply => some reply.sequence
  | .getLedgersPage, reply => some reply.sequence
  | .getLedgerEntries _, reply => some reply.latestLedger
  | .simulateTransaction _ _ _, reply => some reply.latestLedger
  | .closeLedgers _ _, reply => some reply.newSequence
  | .getNetwork, _ => none
  | .sendTransaction _ _ _, _ => none
  | .setLedgerEntry _ _ _, _ => none
  | .getTransaction _, _ => none

section

variable {X : Xdr} {world : World X} {wire : Wire X}

/-! ## What the worker tells -/

/-- A reply of the worker has the ledger that the fork is at from then on. -/
theorem Server.ledger_of_step {server server' : Server X} {cmd : Command X} {reply : cmd.Reply}
    {n : UInt32} (stepped : server.step world cmd = (.ok reply, server'))
    (told : cmd.ledger reply = some n) : n = server'.ledgerSequence := by
  obtain ⟨-, w, ran, rfl⟩ := step_ok_iff.mp stepped
  cases cmd with
  | getLatestLedger =>
      cases ran
      cases told
      rfl
  | getLedgersPage =>
      cases ran
      cases told
      rfl
  | getLedgerEntries keys =>
      simp only [Worker.step] at ran
      rcases read : server.worker.env.read world (resolveLedgerEntries keys) with
        ⟨panic | entries, env⟩
      · rw [read] at ran
        cases ran
      · rw [read] at ran
        cases ran
        cases told
        rfl
  | simulateTransaction hostFunction sourceAccount size =>
      simp only [Worker.step] at ran
      rcases simulated : simulateTransaction world hostFunction sourceAccount size
        server.worker.env with ⟨out, env⟩
      rw [simulated] at ran
      cases ran
      cases told
      exact latestLedger_simulateTransaction simulated
  | closeLedgers ledgers seconds =>
      simp only [Worker.step] at ran
      cases ran
      cases told
      rfl
  | _ => cases told

/-! ## What a handler tells -/

section

variable (told : UInt32 → Prop)

/-- If the worker tells allowed ledgers only, so does the handler. -/
def Shows (handler : Handler X Response) : Prop :=
  Prog.Meets (fun _ => True) (fun cmd reply => ∀ n, cmd.ledger reply = some n → told n)
    (fun outcome => ∀ response n, outcome = .ok response → response.ledger = some n → told n)
    handler

variable {told}

theorem shows_pure {response : Response} (allowed : ∀ n, response.ledger = some n → told n) :
    Shows told (pure response : Handler X Response) := by
  rintro _ n same
  cases same
  exact allowed n

/-- A response with a ledger that the worker told. -/
theorem shows_told {response : Response} {n : UInt32} (same : response.ledger = some n)
    (allowed : told n) : Shows told (pure response : Handler X Response) := by
  refine shows_pure fun m has => ?_
  rw [same] at has
  cases has
  exact allowed

theorem shows_error (e : HandlerError) :
    Shows told (decoded (.error e) : Handler X Response) := by
  intro response n same
  cases same

theorem shows_send {cmd : Command X} {next : cmd.Reply → Handler X Response}
    (rest : ∀ reply, (∀ n, cmd.ledger reply = some n → told n) → Shows told (next reply)) :
    Shows told (send cmd >>= next) :=
  ⟨trivial, rest⟩

theorem shows_decoded {α : Type} {value : Except HandlerError α} {next : α → Handler X Response}
    (rest : ∀ a, Shows told (next a)) : Shows told (decoded value >>= next) := by
  cases value with
  | error e =>
      rw [decoded_error_bind]
      exact shows_error e
  | ok a =>
      rw [decoded_ok_bind]
      exact rest a

/-- A look at the ledger, as the last command of a handler. -/
theorem shows_latest {response : LatestLedgerReply → Response}
    (same : ∀ latest, (response latest).ledger = some latest.sequence) :
    Shows told (do
      let latest ← send .getLatestLedger
      return response latest : Handler X Response) :=
  shows_send fun latest allowed => shows_told (same latest) (allowed _ rfl)

theorem shows_write {write : EntryWrite} {response : LatestLedgerReply → Response}
    (same : ∀ latest, (response latest).ledger = some latest.sequence) :
    Shows told (do
      send write.command
      let latest ← send .getLatestLedger
      return response latest : Handler X Response) :=
  shows_send fun _ _ => shows_latest same

theorem ledger_encodeSimulationReply (reply : SimulationReply) :
    (encodeSimulationReply wire reply).ledger = some reply.latestLedger := by
  unfold encodeSimulationReply
  cases reply.result <;> rfl

theorem latestLedger_getTransactionResponse (receipt : Option (TxReceipt X)) (latest : UInt32) :
    (getTransactionResponse wire receipt latest).latestLedger = latest := by
  cases receipt with
  | none => rfl
  | some receipt =>
      cases outcome : receipt.result <;> simp only [getTransactionResponse, outcome]

theorem shows_handleSetTokenBalance (request : TokenBalanceRequest) :
    Shows told (handleSetTokenBalance world wire request : Handler X Response) := by
  refine shows_send fun sim allowed => shows_decoded fun current => shows_decoded fun delta => ?_
  split
  · exact shows_told rfl (allowed _ rfl)
  refine shows_decoded fun change => shows_send fun sent _ => ?_
  split
  · exact shows_error _
  · exact shows_latest fun _ => rfl

/-- **A handler tells no ledger of its own.** -/
theorem shows_dispatch (method : String) (params : wire.Json) :
    Shows told (dispatch world wire method params) := by
  unfold dispatch
  split
  -- `getHealth` to `getLatestLedger`
  · exact shows_latest fun _ => rfl
  · exact shows_send fun _ _ => shows_pure nofun
  · exact shows_send fun _ _ => shows_pure nofun
  · exact shows_latest fun _ => rfl
  -- `getLedgers` to `getTransaction`
  · exact shows_decoded fun _ => shows_send fun _ allowed => shows_told rfl (allowed _ rfl)
  · exact shows_decoded fun _ => shows_send fun _ allowed => shows_told rfl (allowed _ rfl)
  · exact shows_decoded fun _ => shows_send fun reply allowed =>
      shows_told (ledger_encodeSimulationReply reply) (allowed _ rfl)
  · refine shows_decoded fun _ => shows_send fun _ _ => shows_send fun _ allowed =>
      shows_send fun _ _ => ?_
    exact shows_told rfl (allowed _ rfl)
  · exact shows_decoded fun _ => shows_send fun receipt _ => shows_latest fun latest =>
      congrArg some (latestLedger_getTransactionResponse receipt latest.sequence)
  -- the direct writes
  · exact shows_decoded fun _ => shows_write fun _ => rfl
  · exact shows_decoded fun _ => shows_write fun _ => rfl
  · exact shows_decoded fun _ => shows_write fun _ => rfl
  -- `fork_setBalance`
  · apply shows_decoded
    intro request
    cases request with
    | inl request =>
        exact shows_send fun _ allowed => shows_decoded fun _ => shows_send fun _ _ =>
          shows_told rfl (allowed _ rfl)
    | inr request => exact shows_handleSetTokenBalance request
  -- `fork_etch` and `fork_closeLedgers`
  · exact shows_decoded fun _ => shows_send fun _ _ => shows_send fun _ _ =>
      shows_decoded fun _ => shows_write fun _ => rfl
  · exact shows_decoded fun _ => shows_send fun _ allowed => shows_told rfl (allowed _ rfl)
  · exact shows_error _

end

/-! ## Interleaved requests -/

variable {κ : Type} [DecidableEq κ] {server : Server X} {k : κ} {schedule : List κ}
  {response : Response} {n : UInt32}

theorem exists_moment_of_dispatch {c : Clients κ (Command X) Command.Reply ActorError (Server X)
      (Except HandlerError Response)} {method : String} {params : wire.Json}
    (starts : c.progs k = .ok (dispatch world wire method params))
    (answered : (Clients.run (Server.step world) schedule c).progs k = .ok (.ret (.ok response)))
    (told : response.ledger = some n) :
    ∃ moment, moment <+: schedule ∧
      n = (Clients.run (Server.step world) moment c).server.ledgerSequence := by
  have shows_ : Shows (fun n => ∃ moment, moment <+: schedule ∧
      n = (Clients.run (Server.step world) moment c).server.ledgerSequence)
      (dispatch world wire method params) := shows_dispatch method params
  refine Clients.meets_of_heard (Server.step world) starts shows_ ?_ answered response n rfl told
  intro past part cmd reply stepped m has
  exact ⟨past ++ [k], part, Server.ledger_of_step stepped has⟩

/-- **The ledger of a moment.**  In every interleaving, the ledger in a response is
the one the fork was at in some moment, from when nothing had been done yet for its
request. -/
theorem reply_shows_ledger {requests : κ → String × wire.Json} {before during : List κ}
    (new : k ∉ before)
    (answered : (Clients.run (Server.step world) (before ++ during)
      (concurrently world wire requests server)).progs k = .ok (.ret (.ok response)))
    (told : response.ledger = some n) :
    ∃ moment, moment <+: during ∧
      n = (Clients.run (Server.step world) (before ++ moment)
        (concurrently world wire requests server)).server.ledgerSequence := by
  have starts : (Clients.run (Server.step world) before
      (concurrently world wire requests server)).progs k =
        .ok (dispatch world wire (requests k).1 (requests k).2) :=
    Clients.progs_run_of_not_mem (Server.step world) new
  rw [Clients.run_append] at answered
  simp only [Clients.run_append]
  exact exists_moment_of_dispatch starts answered told

/-- The ledger a request is told is not before its start, nor after its end. -/
theorem ledger_bounds_of_dispatch
    {c : Clients κ (Command X) Command.Reply ActorError (Server X)
      (Except HandlerError Response)} {method : String} {params : wire.Json}
    (starts : c.progs k = .ok (dispatch world wire method params))
    (answered : (Clients.run (Server.step world) schedule c).progs k = .ok (.ret (.ok response)))
    (told : response.ledger = some n) :
    c.server.ledgerSequence.toNat ≤ n.toNat ∧
      n.toNat ≤ (Clients.run (Server.step world) schedule c).server.ledgerSequence.toNat := by
  obtain ⟨moment, part, rfl⟩ := exists_moment_of_dispatch starts answered told
  have climbs (cmd : Command X) (s : Server X) := (s.clock_step world cmd).1
  have started : [] <+: moment := List.nil_prefix
  exact ⟨Clients.run_le_of_prefix (Server.step world) climbs (c := c) started,
    Clients.run_le_of_prefix (Server.step world) climbs part⟩

/-! ## Behind the channel -/

variable {requests : κ → JsonRpcRequest wire} {es es' : List (Channel.Event κ (Command X))}
  {c c' : Channel κ (Command X) Command.Reply ActorError (Server X) (HttpReply wire)}
  {id : wire.Json}

/-- A request that got a result is one of the right version, and its handler ended
with that result. -/
theorem ended_of_received (ran : ChannelRun world es (accepted world requests server) c)
    (got : received requests c k = some (.json (.ok id response))) :
    (Clients.run (Server.step world) (es.flatMap Channel.Event.turns)
      (concurrently world wire (asked requests) server)).progs k = .ok (.ret (.ok response)) := by
  obtain ⟨-, replies⟩ := schedule_of_run ran
  have as := replies k _ got
  unfold RepliesAs at as
  split at as
  case isFalse => cases as
  case isTrue =>
    obtain ⟨outcome, ended, same⟩ := as
    rcases outcome with gone | (e | message) | response'
    · cases same
    · cases same
    · cases same
    · cases same
      exact ended

/-- **Ledger numbers never go back.**  A response that was received has a ledger no
later than what the fork is at; a request for which nothing had been done by then is
told a ledger no earlier than that, whatever the other requests do. -/
theorem ledgers_in_order (ran : ChannelRun world es (accepted world requests server) c) :
    (∀ j id response n, received requests c j = some (.json (.ok id response)) →
      response.ledger = some n → n.toNat ≤ c.server.ledgerSequence.toNat) ∧
    ∀ es' c', ChannelRun world es' c c' → ∀ k, (∀ e ∈ es, k ∉ e.clients) →
      ∀ id response n, received requests c' k = some (.json (.ok id response)) →
        response.ledger = some n →
        c.server.ledgerSequence.toNat ≤ n.toNat ∧
          n.toNat ≤ c'.server.ledgerSequence.toNat := by
  refine ⟨fun j id response n got told => ?_,
    fun es' c' later k new id response n got told => ?_⟩
  · have bounds := ledger_bounds_of_dispatch
      (c := concurrently world wire (asked requests) server) rfl (ended_of_received ran got) told
    rw [(schedule_of_run ran).1]
    exact bounds.2
  · have total := ran.trans later
    have answered := ended_of_received total got
    have notTurned : k ∉ es.flatMap Channel.Event.turns := by
      intro mem
      obtain ⟨e, memEs, turns⟩ := List.mem_flatMap.mp mem
      exact new e memEs (e.turns_subset turns)
    rw [List.flatMap_append, Clients.run_append] at answered
    have bounds := ledger_bounds_of_dispatch
      (Clients.progs_run_of_not_mem (Server.step world) notTurned) answered told
    rw [← Clients.run_append, ← List.flatMap_append] at bounds
    rw [(schedule_of_run ran).1, (schedule_of_run total).1]
    exact bounds

end

open Sample in
theorem reply_shows_ledger_closedBefore :
    ∃ moment, moment <+: [true, true, true] ∧
      101 = (sendAndCloseAfter ([false] ++ moment)).server.ledgerSequence := by
  have answered : (sendAndCloseAfter [false, true, true, true]).progs true =
      .ok (.ret (.ok (.sendTransaction (sentAt 101 "1005")))) := rfl
  have new : true ∉ [false] := by decide
  exact reply_shows_ledger new answered rfl

namespace Sample

/-- The ledger is read before another one is closed. -/
theorem run_readThenClose : ∃ es es' c c',
    ChannelRun world es (accepted world clock (server [])) c ∧ ChannelRun world es' c c' ∧
      (∀ e ∈ es, false ∉ e.clients) ∧
      received clock c true =
        some (.json (.ok .null (.latestLedger ⟨"forked-ledger-100", 100, 25⟩))) ∧
      received clock c' false = some (.json (.ok .null (.closeLedgers ⟨101, "1005"⟩))) := by
  have start : ChannelRun world [] (accepted world clock (server [])) _ := .nil
  have sent := start.snoc (.send (k := true) (q := .getLatestLedger) rfl rfl (by decide))
  have read := ((sent.snoc (.take rfl rfl)).snoc (.serve rfl rfl)).snoc (.resume (k := true) rfl)
  exact ⟨_, _, _, _, read,
    (((Channel.Run.nil.snoc (.send (k := false) (q := .closeLedgers 1 5) rfl rfl (by decide))).snoc
      (.take rfl rfl)).snoc (.serve rfl rfl)).snoc (.resume (k := false) rfl),
    by simp [Channel.Event.clients], rfl, rfl⟩

end Sample

theorem ledgers_in_order_readThenClose :
    ∃ c : Channel Bool (Command Sample.xdr) Command.Reply ActorError (Server Sample.xdr)
        (HttpReply (Sample.wire [])),
      received Sample.clock c true =
        some (.json (.ok .null (.latestLedger ⟨"forked-ledger-100", 100, 25⟩))) ∧
      100 ≤ c.server.ledgerSequence.toNat ∧ c.server.ledgerSequence.toNat ≤ 101 := by
  obtain ⟨es, es', c, c', ran, later, new, got, got'⟩ := Sample.run_readThenClose
  obtain ⟨before, after⟩ := ledgers_in_order ran
  exact ⟨c, got, before true _ _ 100 got rfl, (after es' c' later false new _ _ 101 got' rfl).1⟩

end SorobanFork
