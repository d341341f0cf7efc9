import SorobanFork.Persistence
import SorobanFork.Server.Channel

/-!
# From start to exit (`server/mod.rs`)

The worker thread owns the fork and saves its cache when it drops it: after a panic,
or when the server has stopped and the channel is empty.  The server stops when all
requests are over, and then the process exits; it does not wait for the thread.

* `saved_at_most_once`: the disk is as it was, or was saved once, with what the
  executed commands left; these are all that were sent, unless one panicked.
* `exits_saved_or_not`: a server may end with its cache saved and without.
-/

namespace SorobanFork

open Lib

inductive ServeError : Type
  | fork (error : ForkError)
  | io (message : String)
deriving DecidableEq

/-- Where the main task is. -/
inductive Phase : Type
  | serving
  | stopped (result : Except ServeError Unit)
  | exited
deriving DecidableEq

/-- A process that runs a server. -/
structure Process {X : Xdr} (κ : Type) (wire : Wire X) (format : SnapshotFormat) : Type where
  phase : Phase
  channel : Channel κ (Command X) Command.Reply ActorError (Server X) (HttpReply wire)
  /-- The thread has dropped the fork. -/
  dropped : Bool
  disk : Disk format

namespace Process

variable {X : Xdr} {κ : Type} {wire : Wire X} {format : SnapshotFormat}

/-- `ServerBuilder::start`: the fork is built before the listener is bound. -/
def start (world : World X) (format : SnapshotFormat) (site : Site) (disk : Disk format)
    (config : ForkConfig) (bind : Except String Unit) (requests : κ → JsonRpcRequest wire) :
    Except ServeError (Process κ wire format) :=
  match Server.spawn format site disk config with
  | .error e => .error (.fork e)
  | .ok server => .ok
    { phase :=
        match bind with
        | .ok () => .serving
        | .error message => .stopped (.error (.io message))
      channel := accepted world requests server
      dropped := false
      disk := disk }

inductive Event (κ : Type) (X : Xdr) : Type
  | channel (e : Channel.Event κ (Command X))
  | stopped
  | dropped
  | exited

/-- What happens in the channel. -/
def Event.inChannel : Event κ X → List (Channel.Event κ (Command X))
  | .channel e => [e]
  | .stopped | .dropped | .exited => []

variable [DecidableEq κ] (world : World X)

/-- One event. -/
inductive Step : Event κ X → Process κ wire format → Process κ wire format → Prop
  | request {p : Process κ wire format} {e : Channel.Event κ (Command X)}
    {c : Channel κ (Command X) Command.Reply ActorError (Server X) (HttpReply wire)} :
    p.phase = .serving → ¬e.OfThread →
    Channel.Step (Server.service world) channelCapacity e p.channel c →
    Step (.channel e) p { p with channel := c }
  | work {p : Process κ wire format} {e : Channel.Event κ (Command X)}
    {c : Channel κ (Command X) Command.Reply ActorError (Server X) (HttpReply wire)} :
    p.phase ≠ .exited → e.OfThread →
    Channel.Step (Server.service world) channelCapacity e p.channel c →
    Step (.channel e) p { p with channel := c }
  /-- a graceful shutdown waits for the requests -/
  | stop {p : Process κ wire format} :
    p.phase = .serving → (∀ k, (p.channel.tasks k).Over) →
    Step .stopped p { p with phase := .stopped (.ok ()) }
  /-- the loop has ended, by a panic or because all senders are gone -/
  | drop {p : Process κ wire format} {faults : SaveFaults format} {stamp : SaveStamp} :
    p.phase ≠ .exited → p.dropped = false →
    p.channel.server.alive = false ∨ p.phase ≠ .serving ∧ p.channel.pending = [] →
    Step .dropped p
      { p with
        dropped := true
        disk := p.channel.server.worker.env.drop format faults stamp p.disk }
  | exit {p : Process κ wire format} {result : Except ServeError Unit} :
    p.phase = .stopped result → Step .exited p { p with phase := .exited }

/-- A sequence of events. -/
inductive Run : List (Event κ X) → Process κ wire format → Process κ wire format → Prop
  | nil {p : Process κ wire format} : Run [] p p
  | snoc {es : List (Event κ X)} {e : Event κ X} {p p₁ p₂ : Process κ wire format} :
    Run es p p₁ → Step world e p₁ p₂ → Run (es ++ [e]) p p₂

variable {world} {p p' p₀ : Process κ wire format} {e : Event κ X} {es es' : List (Event κ X)}

/-- The channel does not see the rest. -/
theorem Run.channel (ran : Run world es p p') :
    ChannelRun world (es.flatMap Event.inChannel) p.channel p'.channel := by
  induction ran with
  | nil => exact .nil
  | @snoc es e p p₁ p₂ before step ih =>
      rw [List.flatMap_append, List.flatMap_singleton]
      cases step with
      | request serving other step => exact ih.snoc step
      | work running own step => exact ih.snoc step
      | stop | drop | exit =>
          rw [Event.inChannel, List.append_nil]
          exact ih

theorem Run.trans (first : Run world es p p') {p'' : Process κ wire format}
    (second : Run world es' p' p'') : Run world (es ++ es') p p'' := by
  induction second with
  | nil =>
      rw [List.append_nil]
      exact first
  | snoc before step ih =>
      rw [← List.append_assoc]
      exact (ih first).snoc step

/-! ## The disk -/

/-- The thread still has the fork and the disk is as it was, or the fork was dropped
when its loop had ended, with one save. -/
def SavedOnce (disk : Disk format) (p : Process κ wire format) : Prop :=
  p.dropped = false ∧ p.disk = disk ∨
    p.dropped = true ∧ p.channel.pending = [] ∧
      (p.channel.server.alive = false ∨ p.phase ≠ .serving) ∧
      ∃ faults stamp, p.disk = p.channel.server.worker.env.drop format faults stamp disk

theorem SavedOnce.step {disk : Disk format}
    (wf : p.channel.WellFormed (Server.service world) channelCapacity)
    (saved : p.SavedOnce disk) (step : Step world e p p') : p'.SavedOnce disk := by
  cases step with
  | @request _ _ c serving other step =>
      rcases saved with untouched | ⟨dropped, idle, ended, saved⟩
      · exact .inl untouched
      · have dead := ended.resolve_right (not_not_intro serving)
        obtain ⟨server, -⟩ := step.of_dead wf dead
        have dead' : c.server.alive = false := by rw [server, dead]
        refine .inr ⟨dropped, (wf.step step).closed dead', .inl dead', ?_⟩
        show ∃ faults stamp, p.disk = c.server.worker.env.drop format faults stamp disk
        rwa [server]
  | work running own step =>
      rcases saved with untouched | ⟨-, idle, -⟩
      · exact .inl untouched
      · exact absurd own (step.not_ofThread idle)
  | stop serving allOver =>
      rcases saved with untouched | ⟨dropped, idle, ended, saved⟩
      · exact .inl untouched
      · exact .inr ⟨dropped, idle, .inr nofun, saved⟩
  | @drop _ faults stamp running held ended =>
      rcases saved with ⟨-, same⟩ | ⟨dropped, -⟩
      · refine .inr ⟨rfl, ?_, ended.imp_right And.left, faults, stamp, by rw [same]⟩
        rcases ended with dead | ⟨-, idle⟩
        · exact wf.closed dead
        · exact idle
      · rw [held] at dropped
        cases dropped
  | exit stopped =>
      rcases saved with untouched | ⟨dropped, idle, ended, saved⟩
      · exact .inl untouched
      · exact .inr ⟨dropped, idle, .inr nofun, saved⟩

theorem SavedOnce.run {disk : Disk format}
    (wf : p.channel.WellFormed (Server.service world) channelCapacity)
    (saved : p.SavedOnce disk) (ran : Run world es p p') : p'.SavedOnce disk := by
  induction ran with
  | nil => exact saved
  | snoc before step ih => exact (ih wf saved).step (wf.run before.channel) step

omit [DecidableEq κ] in
theorem start_eq_ok {site : Site} {disk : Disk format} {config : ForkConfig}
    {bind : Except String Unit} {requests : κ → JsonRpcRequest wire}
    (started : start world format site disk config bind requests = .ok p₀) :
    ∃ server, Server.spawn format site disk config = .ok server ∧
      p₀.channel = accepted world requests server ∧ p₀.dropped = false ∧ p₀.disk = disk := by
  unfold start at started
  rcases spawned : Server.spawn format site disk config with e | server
  · rw [spawned] at started
    cases started
  · rw [spawned] at started
    cases started
    exact ⟨server, rfl, rfl, rfl, rfl⟩

omit [DecidableEq κ] in
theorem wellFormed_of_start {site : Site} {disk : Disk format} {config : ForkConfig}
    {bind : Except String Unit} {requests : κ → JsonRpcRequest wire}
    (started : start world format site disk config bind requests = .ok p₀) :
    p₀.channel.WellFormed (Server.service world) channelCapacity ∧ p₀.channel.pending = [] := by
  obtain ⟨server, -, channel, -⟩ := start_eq_ok started
  rw [channel]
  exact ⟨Channel.wellFormed_ofClients _, rfl⟩

theorem savedOnce_of_run {site : Site} {disk : Disk format} {config : ForkConfig}
    {bind : Except String Unit} {requests : κ → JsonRpcRequest wire}
    (started : start world format site disk config bind requests = .ok p₀)
    (ran : Run world es p₀ p) : p.SavedOnce disk := by
  obtain ⟨-, -, -, held, same⟩ := start_eq_ok started
  exact .run (wellFormed_of_start started).1 (.inl ⟨held, same⟩) ran

omit [DecidableEq κ] in
theorem SavedOnce.disk_eq {disk : Disk format} (saved : p.SavedOnce disk)
    (held : p.dropped = false) : p.disk = disk := by
  rcases saved with ⟨-, same⟩ | ⟨dropped, -⟩
  · exact same
  · rw [held] at dropped
    cases dropped

/-- **One save at most.**  At every moment of a server process, until the thread has
dropped the fork the disk is as it was; from then on it is as one save of what the
executed commands left makes it.  What was executed is the beginning of what was
sent, and all of it unless a command panicked. -/
theorem saved_at_most_once {site : Site} {disk : Disk format} {config : ForkConfig}
    {bind : Except String Unit} {requests : κ → JsonRpcRequest wire}
    (started : start world format site disk config bind requests = .ok p₀)
    (ran : Run world es p₀ p) :
    let sent := (es.flatMap Event.inChannel).flatMap Channel.Event.sends
    let executed := (es.flatMap Event.inChannel).flatMap Channel.Event.executes
    let last := executed.foldl (fun server command => (server.step world command.2).2)
      p₀.channel.server
    executed <+: sent ∧ (p.dropped = false → p.disk = disk) ∧
      (p.dropped = true →
        (∃ faults stamp, p.disk = last.worker.env.drop format faults stamp disk) ∧
          (last.alive = true → executed = sent)) := by
  obtain ⟨wf, empty⟩ := wellFormed_of_start started
  obtain ⟨lost, law, none⟩ := ran.channel.conserves wf
  rw [empty, List.map_nil, List.nil_append, List.append_assoc] at law
  have saved := savedOnce_of_run started ran
  have last := ran.channel.server_eq
  refine ⟨law ▸ List.prefix_append _ _, saved.disk_eq, fun dropped => ?_⟩
  rcases saved with ⟨held, -⟩ | ⟨-, idle, -, saved⟩
  · rw [held] at dropped
    cases dropped
  refine ⟨?_, fun alive => ?_⟩
  · rwa [last] at saved
  · have live : (Server.service world).alive p.channel.server = true := by
      rw [last]
      exact alive
    rw [none live, idle, List.map_nil, List.append_nil] at law
    exact (law.trans (List.append_nil _)).symm

/-! ## The exit -/

/-- While the server serves, all that can happen in the channel may happen. -/
theorem Run.of_channel (serving : p.phase = .serving)
    {inChannel : List (Channel.Event κ (Command X))}
    {c : Channel κ (Command X) Command.Reply ActorError (Server X) (HttpReply wire)}
    (ran : ChannelRun world inChannel p.channel c) :
    Run world (inChannel.map .channel) p { p with channel := c } := by
  generalize start : p.channel = c₀ at ran
  induction ran with
  | nil =>
      subst start
      exact .nil
  | @snoc es e c₀ c₁ c₂ before step ih =>
      rw [List.map_append]
      refine (ih start).snoc ?_
      by_cases own : e.OfThread
      · exact .work (by rw [serving]; nofun) own step
      · exact .request serving own step

/-- A server that serves may come to a stop with nobody hanging up, all requests over and
all commands executed, and nothing dropped in between. -/
theorem exists_run_stopped [Fintype κ] {site : Site} {disk : Disk format} {config : ForkConfig}
    {bind : Except String Unit} {requests : κ → JsonRpcRequest wire}
    (started : start world format site disk config bind requests = .ok p₀)
    (ran : Run world es p₀ p) (serving : p.phase = .serving) :
    ∃ es' c, Run world es' p { p with phase := .stopped (.ok ()), channel := c } ∧
      (∀ k, .channel (.hungUp k) ∉ es') ∧ c.Settled := by
  obtain ⟨server, -, channel, -⟩ := start_eq_ok started
  have inChannel := ran.channel
  rw [channel] at inChannel
  obtain ⟨es', c, settles, settled, stay⟩ :=
    Channel.exists_run_settled (by decide) (wellFormed_of_run inChannel) (owes_of_run inChannel)
  refine ⟨_, c, (Run.of_channel serving settles).snoc (.stop serving settled.1), ?_, settled⟩
  intro k mem
  simp only [List.mem_append, List.mem_map, List.mem_singleton, reduceCtorEq, or_false] at mem
  obtain ⟨e, memEs, same⟩ := mem
  cases same
  exact stay k memEs

/-- **The exit does not wait for the save.**  However far a server has come that still
serves, it may answer all requests that have not hung up, stop, and exit with the disk
as it is now; and if the fork is not dropped yet, it may as well exit with its cache
saved. -/
theorem exits_saved_or_not [Fintype κ] {site : Site} {disk : Disk format} {config : ForkConfig}
    {bind : Except String Unit} {requests : κ → JsonRpcRequest wire}
    (started : start world format site disk config bind requests = .ok p₀)
    (ran : Run world es p₀ p) (serving : p.phase = .serving) :
    (∃ es' p', Run world es' p p' ∧ (∀ k, .channel (.hungUp k) ∉ es') ∧
        p'.phase = .exited ∧ p'.channel.Settled ∧ p'.disk = p.disk) ∧
      (p.dropped = false → ∀ faults stamp, ∃ es' p', Run world es' p p' ∧
        (∀ k, .channel (.hungUp k) ∉ es') ∧ p'.phase = .exited ∧ p'.channel.Settled ∧
        p'.disk = p'.channel.server.worker.env.drop format faults stamp disk) := by
  obtain ⟨es', c, stops, stay, settled⟩ := exists_run_stopped started ran serving
  refine ⟨⟨_, _, stops.snoc (.exit rfl), ?_, rfl, settled, rfl⟩, fun held faults stamp => ?_⟩
  · simpa using stay
  · rw [← (savedOnce_of_run started ran).disk_eq held]
    exact ⟨_, _, (stops.snoc (.drop nofun held (.inr ⟨nofun, settled.2⟩))).snoc (.exit rfl),
      by simpa using stay, rfl, settled, rfl⟩

end Process

namespace Sample

/-- A server process on a free or a taken address. -/
def launch (bind : Except String Unit) :
    Except ServeError (Process Bool (wire []) snapshotFormat) :=
  Process.start world snapshotFormat site (fun _ => none) config bind clock

end Sample

open Sample in
/-- A server whose address is taken saves the cache of the fork that it built. -/
theorem saved_at_most_once_addressTaken :
    ∃ p₀ p, launch (.error "Address already in use") = .ok p₀ ∧
      Process.Run world [.dropped, .exited] p₀ p ∧
      ∃ faults stamp,
        p.disk = started.worker.env.drop snapshotFormat faults stamp fun _ => none := by
  have launched : ∃ p₀, launch (.error "Address already in use") = .ok p₀ := ⟨_, rfl⟩
  obtain ⟨p₀, launched⟩ := launched
  have idle : p₀.phase = .stopped (.error (.io "Address already in use")) ∧
      p₀.dropped = false ∧ p₀.channel.pending = [] := by
    cases launched
    exact ⟨rfl, rfl, rfl⟩
  obtain ⟨stopped, held, empty⟩ := idle
  have ran : ∃ p, Process.Run world [.dropped, .exited] p₀ p ∧ p.dropped = true := by
    have drops := @Process.Step.drop _ _ _ _ _ world p₀ .none stamp (by rw [stopped]; nofun) held
      (.inr ⟨by rw [stopped]; nofun, empty⟩)
    exact ⟨_, (Process.Run.nil.snoc drops).snoc (.exit stopped), rfl⟩
  obtain ⟨p, ran, dropped⟩ := ran
  obtain ⟨-, -, saved⟩ := Process.saved_at_most_once launched ran
  have same : p₀.channel.server = started := by
    cases launched
    rfl
  refine ⟨p₀, p, launched, ran, ?_⟩
  rw [← same]
  exact (saved dropped).1

open Sample in
theorem exits_saved_or_not_launched :
    ∃ p₀ es p, launch (.ok ()) = .ok p₀ ∧ Process.Run world es p₀ p ∧ p.phase = .exited ∧
      p.channel.Settled ∧ p.disk = fun _ => none := by
  have launched : ∃ p₀, launch (.ok ()) = .ok p₀ ∧ p₀.phase = .serving ∧
      p₀.disk = fun _ => none := ⟨_, rfl, rfl, rfl⟩
  obtain ⟨p₀, launched, serving, disk⟩ := launched
  obtain ⟨es, p, ran, -, exited, settled, same⟩ :=
    (Process.exits_saved_or_not launched .nil serving).1
  exact ⟨p₀, es, p, launched, ran, exited, settled, same.trans disk⟩

end SorobanFork
