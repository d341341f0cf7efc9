import SorobanFork.Server.Cheatcodes
import SorobanFork.Server.Concurrent

/-!
# The commands of a live server

What a server that is alive replies to the commands of the cheat handlers, and how
it is left: a write and a read change its source only (`Server.withSource`).  With
`run_send` a handler is run command by command; a dead server ends it at the first.
-/

namespace SorobanFork

open Lib

section

variable {X : Xdr} {world : World X} {wire : Wire X}

/-- The server with another source. -/
def Server.withSource (server : Server X) (source : RpcSnapshotSource X) : Server X :=
  { server with
    worker := { server.worker with env := { server.worker.env with source := source } } }

theorem Server.alive_withSource {server : Server X} (alive : server.alive = true)
    (source : RpcSnapshotSource X) : (server.withSource source).alive = true := alive

/-- The source after a write. -/
def RpcSnapshotSource.write (s : RpcSnapshotSource X) (write : EntryWrite) : RpcSnapshotSource X :=
  s.setEntry write.key write.entry write.liveUntil

theorem RpcSnapshotSource.cached_write_self (s : RpcSnapshotSource X) (write : EntryWrite) :
    (s.write write).cached write.key = some (some (write.entry, write.liveUntil)) := by
  rw [RpcSnapshotSource.write, cached_setEntry, Function.update_self]

theorem RpcSnapshotSource.cached_write_of_ne {s : RpcSnapshotSource X} {write : EntryWrite}
    {key : LedgerKey} (other : key ≠ write.key) : (s.write write).cached key = s.cached key := by
  rw [RpcSnapshotSource.write, cached_setEntry, Function.update_of_ne other]

section Steps

variable {server : Server X} {key : LedgerKey} {value : Option EntryWithLiveUntil}

theorem step_write (alive : server.alive = true) (write : EntryWrite) :
    server.step world write.command =
      (.ok (), server.withSource (server.worker.env.source.write write)) := by
  have ran : server.worker.step world write.command =
      (.ok (), (server.withSource (server.worker.env.source.write write)).worker) :=
    Worker.step_setLedgerEntry ..
  rw [Server.step_of_ok alive ran, Server.withSource, alive]

theorem step_getLatestLedger (alive : server.alive = true) :
    server.step world .getLatestLedger =
      (.ok ⟨server.ledgerSequence, server.worker.env.protocolVersion,
        s!"forked-ledger-{server.ledgerSequence}"⟩, server) := by
  obtain ⟨w, _⟩ := server
  cases alive
  exact Server.step_of_ok rfl rfl

theorem step_getLedgerEntries (alive : server.alive = true)
    (answered : server.worker.env.source.answer world.client key = .ok value) :
    server.step world (.getLedgerEntries [key]) =
      (.ok ⟨[value.map fun entry => (key, entry)], server.ledgerSequence⟩,
        server.withSource (server.worker.env.source.get world.client key).2) := by
  have got : server.worker.env.source.get world.client key =
      (.ok value, (server.worker.env.source.get world.client key).2) := Prod.ext answered rfl
  have read : server.worker.env.read world (resolveLedgerEntries [key]) =
      (.ok [value.map fun entry => (key, entry)],
        { server.worker.env with
          source := (server.worker.env.source.get world.client key).2 }) := by
    rw [ForkedEnv.read, RpcSnapshotSource.read, resolveLedgerEntries, Prog.run_ask_ok got,
      resolveLedgerEntries, Prog.ret_bind, Prog.run_ret]
  have ran : server.worker.step world (.getLedgerEntries [key]) =
      (.ok ⟨[value.map fun entry => (key, entry)], server.ledgerSequence⟩,
        { server.worker with
          env := { server.worker.env with
            source := (server.worker.env.source.get world.client key).2 } }) := by
    rw [Worker.step, read]
    rfl
  rw [Server.step_of_ok alive ran, Server.withSource, alive]

theorem single_entries (key : LedgerKey) (value : Option EntryWithLiveUntil) (sequence : UInt32) :
    LedgerEntriesReply.single ⟨[value.map fun entry => (key, entry)], sequence⟩ =
      value.map (·.1) := by
  cases value <;> rfl

/-- Writing a key leaves the answer to the others. -/
theorem RpcSnapshotSource.answer_write {s : RpcSnapshotSource X} {client : RpcClient}
    {write : EntryWrite} (other : key ≠ write.key) :
    (s.write write).answer client key = s.answer client key := by
  have cached := cached_write_of_ne (s := s) other
  rcases hit : s.cached key with _ | value
  · rw [answer, answer, get_of_not_cached (cached.trans hit), get_of_not_cached hit]
    unfold fetchFromRpc
    rw [show (s.write write).fetches = s.fetches from rfl]
    rcases client s.fetches key with e | _ | fetched
    · have mode : (s.write write).fetchMode = s.fetchMode := rfl
      rw [mode]
      cases s.fetchMode <;> rfl
    · rfl
    · rfl
  · rw [answer, answer, get_of_cached (cached.trans hit), get_of_cached hit]

end Steps

/-! ## Handlers -/

section Handlers

variable {server server' : Server X}

theorem run_send {cmd : Command X} {next : cmd.Reply → Handler X Response} {reply : cmd.Reply}
    (served : server.step world cmd = (.ok reply, server')) :
    Prog.run (Server.step world) (send cmd >>= next : Handler X Response) server =
      Prog.run (Server.step world) (next reply) server' :=
  Prog.run_ask_ok served

/-- A handler of a dead server ends at its first command. -/
theorem run_send_of_dead {cmd : Command X} {next : cmd.Reply → Handler X Response}
    (dead : server.alive = false) :
    Prog.run (Server.step world) (send cmd >>= next : Handler X Response) server =
      (.error .workerGone, server) :=
  Prog.run_ask_error (Server.step_of_dead dead)

theorem serve_of_run {method : String} {params : wire.Json}
    {handler : Handler X Response} {outcome : Except ActorError (Except HandlerError Response)}
    (handles : dispatch world wire method params = handler)
    (ran : Prog.run (Server.step world) handler server = (outcome, server')) :
    serve world wire method params server = (.of outcome, server') := by
  rw [serve, handles, ran]

end Handlers

end

end SorobanFork
