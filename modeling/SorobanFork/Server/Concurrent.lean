import SorobanFork.Lib.Interleave
import SorobanFork.Server.Cheatcodes
import SorobanFork.Server.Effects

/-!
# Requests handled concurrently

The handlers of several requests send their commands to one worker, which
executes them in some order.  `concurrently` is that system; its runs over all
schedules are all interleavings of the requests' commands.

The lemmas say what the server holds right after a command was answered, as far
as the handlers that read an entry and write it back depend on it.
-/

namespace SorobanFork

open Lib

section

variable {X : Xdr} {κ : Type}

/-- The system of requests: each client handles one, a method and its parameters. -/
def concurrently (world : World X) (wire : Wire X) (requests : κ → String × wire.Json)
    (server : Server X) :
    Clients κ (Command X) Command.Reply ActorError (Server X) (Except HandlerError Response) where
  progs k := .ok (dispatch world wire (requests k).1 (requests k).2)
  server := server

/-- The entry the cache of a server holds under a key. -/
def Server.holds (server : Server X) (key : LedgerKey) : Option EntryWithLiveUntil :=
  (server.worker.env.source.cached key).join

/-- The ledger sequence a server reports. -/
def Server.ledgerSequence (server : Server X) : UInt32 := server.worker.env.ledgerSequence

end

namespace Server

variable {X : Xdr} {world : World X} {server server' : Server X} {key : LedgerKey}

/-- A one-key read replies what the cache holds from then on. -/
theorem step_getLedgerEntries_single {reply : LedgerEntriesReply}
    (stepped : server.step world (.getLedgerEntries [key]) = (.ok reply, server')) :
    ∃ value, server'.worker.env.source.cached key = some value ∧
      reply.single = value.map (·.1) ∧ reply.latestLedger = server'.ledgerSequence := by
  obtain ⟨-, w, ran, rfl⟩ := Server.step_ok_iff.mp stepped
  rw [Worker.step] at ran
  rcases got : server.worker.env.source.get world.client key with ⟨e | value, source⟩
  · have read : server.worker.env.read world (resolveLedgerEntries [key]) =
        (.error e, { server.worker.env with source := source }) := by
      rw [ForkedEnv.read, RpcSnapshotSource.read, resolveLedgerEntries, Prog.run_ask_error got]
    rw [read] at ran
    cases ran
  · have read : server.worker.env.read world (resolveLedgerEntries [key]) =
        (.ok [value.map fun entry => (key, entry)],
          { server.worker.env with source := source }) := by
      rw [ForkedEnv.read, RpcSnapshotSource.read, resolveLedgerEntries, Prog.run_ask_ok got,
        resolveLedgerEntries, Prog.ret_bind, Prog.run_ret]
    rw [read] at ran
    cases ran
    have cached : source.cached key = some value := by
      rw [RpcSnapshotSource.cached_get_of_ok got, Function.update_self]
    exact ⟨value, cached, by cases value <;> rfl, rfl⟩

/-- A direct write puts the entry under its key and changes no other. -/
theorem step_setLedgerEntry {entry : LedgerEntry} {liveUntil : Option UInt32} {reply : Unit}
    (stepped : server.step world (.setLedgerEntry key entry liveUntil) = (.ok reply, server')) :
    server'.worker.env.source.cached =
      Function.update server.worker.env.source.cached key (some (some (entry, liveUntil))) := by
  obtain ⟨-, w, ran, rfl⟩ := Server.step_ok_iff.mp stepped
  rw [Worker.step_setLedgerEntry] at ran
  cases ran
  exact RpcSnapshotSource.cached_setEntry key entry liveUntil

end Server

end SorobanFork
