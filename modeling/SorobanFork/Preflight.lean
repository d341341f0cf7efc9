import SorobanFork.Drift
import SorobanFork.Restarts

/-!
# A transaction after its simulation

A client simulates a call before it sends it.  The simulation caches every entry
that it reads; so if nothing writes these entries and the clock stands still in
between, the transaction is executed from the cache.

`sent_as_simulated`: it then has the result that was simulated, and asks upstream
for nothing, whatever the gateway has come to say.
-/

namespace SorobanFork

open Lib

section

variable {X : Xdr}

namespace Server

/-- The keys that a call reads, with the ledger that the server holds. -/
def callReads (world : World X) (server : Server X) (hostFunction : HostFunction)
    (sourceAccount : AccountId) : List LedgerKey :=
  (world.invoke server.worker.env.ledger hostFunction sourceAccount).asked server.holds

/-- Executed in this state, the command does not move the clock and touches none of
the keys. -/
def Leaves (world : World X) (keys : List LedgerKey) (server : Server X) (cmd : Command X) : Prop :=
  (∀ ledgers seconds, cmd ≠ .closeLedgers ledgers seconds) ∧
    ∀ key ∈ keys, ¬server.Touches world key cmd

/-- The server is at the ledger of `before`, and has the entries under the keys
cached as `before` holds them. -/
structure Keeps (keys : List LedgerKey) (before server : Server X) : Prop where
  ledger : server.worker.env.ledger = before.worker.env.ledger
  cached : ∀ key ∈ keys, server.worker.env.source.cached key = some (before.holds key)

variable {world : World X} {before server server' : Server X} {keys : List LedgerKey}
  {hostFunction : HostFunction} {sourceAccount : AccountId}

theorem Keeps.step {cmd : Command X} (leaves : server.Leaves world keys cmd)
    (kept : Keeps keys before server) : Keeps keys before (server.step world cmd).2 where
  ledger := (ledger_step_of_ne leaves.1).trans kept.ledger
  cached key mem := cached_step_of_not_touches (leaves.2 key mem) (kept.cached key mem)

theorem Keeps.run {cmds : List (Command X)}
    (leave : (machine world).AllSteps (Leaves world keys) cmds server)
    (kept : Keeps keys before server) : Keeps keys before ((machine world).run cmds server).2 :=
  (machine world).run_invariant_of _ _ (fun _ _ => Keeps.step) leave kept

/-- **What a simulation leaves.**  Every key that the call reads is cached, and the
call comes out as it was simulated from what the server holds. -/
theorem keeps_of_simulated {size : UInt32} {sim : SimulationReply}
    (simulated : server.step world (.simulateTransaction hostFunction sourceAccount size) =
      (.ok sim, server')) :
    Keeps (server'.callReads world hostFunction sourceAccount) server' server' ∧
      sim.result = ((world.invoke server'.worker.env.ledger hostFunction sourceAccount).value
        server'.holds).txResult ∧
      sim.latestLedger = server'.ledgerSequence := by
  obtain ⟨-, w, ran, rfl⟩ := step_ok_iff.mp simulated
  simp only [Worker.step] at ran
  rcases outcome : simulateTransaction world hostFunction sourceAccount size server.worker.env with
    ⟨out, env⟩
  rw [outcome] at ran
  cases ran
  obtain ⟨invocation, mid, read, result⟩ := simulateTransaction_ok outcome
  have onlyReads := simulateTransaction_onlyReads world server.worker.env hostFunction
    sourceAccount size
  have after := @simulateTransaction_after _ _ _ _ _ _ size _ read
  rw [outcome] at onlyReads after
  have source := ForkedEnv.source_of_read read
  obtain ⟨value, asked⟩ := RpcSnapshotSource.asked_of_read_extends source after.extends_cached
  refine ⟨⟨rfl, ?_⟩, ?_, latestLedger_simulateTransaction outcome⟩
  · intro key mem
    change key ∈ (world.invoke env.ledger hostFunction sourceAccount).asked _ at mem
    rw [onlyReads.ledger] at mem
    exact asked key mem
  · show sim.result = ((world.invoke env.ledger hostFunction sourceAccount).value _).txResult
    rw [result, onlyReads.ledger]
    exact congrArg Invocation.txResult value.symm

/-- A call whose reads are cached reads the source as it is. -/
theorem read_of_keeps
    (kept : Keeps (before.callReads world hostFunction sourceAccount) before server) :
    server.worker.env.read world
        (world.invoke server.worker.env.ledger hostFunction sourceAccount) =
      (.ok ((world.invoke before.worker.env.ledger hostFunction sourceAccount).value before.holds),
        server.worker.env) := by
  rw [kept.ledger]
  have agree : ∀ key ∈ (world.invoke before.worker.env.ledger hostFunction
      sourceAccount).asked before.holds, before.holds key = server.holds key := by
    intro key mem
    rw [holds, holds, kept.cached key mem, Option.join_some, holds]
  have cached : ∀ key ∈ (world.invoke before.worker.env.ledger hostFunction
      sourceAccount).asked server.holds,
      server.worker.env.source.cached key = some (server.worker.env.source.cached key).join := by
    intro key mem
    rw [← Prog.asked_congr _ agree] at mem
    rw [kept.cached key mem, Option.join_some]
  rw [ForkedEnv.read, RpcSnapshotSource.read_of_asked_cached cached, Prog.value_congr _ agree]
  rfl

/-- **A call whose reads are cached** is executed from the cache. -/
theorem step_sendTransaction_of_keeps (alive : server.alive = true)
    (kept : Keeps (before.callReads world hostFunction sourceAccount) before server)
    (envelopeBytes : X.Buf) :
    ∃ sent server', server.step world (.sendTransaction envelopeBytes hostFunction sourceAccount) =
        (.ok sent, server') ∧
      sent.receipt.result = ((world.invoke before.worker.env.ledger hostFunction
        sourceAccount).value before.holds).txResult ∧
      sent.receipt.ledger = before.ledgerSequence ∧
      server'.worker.env.source.fetches = server.worker.env.source.fetches := by
  have read := read_of_keeps kept
  have sequence : server.worker.env.ledgerSequence = before.ledgerSequence :=
    congrArg LedgerInfo.sequenceNumber kept.ledger
  rcases sendTransaction_cases world envelopeBytes hostFunction sourceAccount
      ((world.systemTime server.worker.clockReads).getD 0) server.worker.env with
    ⟨panic, mid, ran, -, -⟩ | ⟨invocation, mid, ran, -, outcome⟩
  · rw [read] at ran
    cases ran
  rw [read] at ran
  cases ran
  rcases outcome with ⟨message, failed, sent⟩ | ⟨value, succeeded, sent⟩
  · refine ⟨_, _, step_of_ok alive (Worker.step_sendTransaction_of_ok sent), failed.symm,
      sequence, rfl⟩
  · refine ⟨_, _, step_of_ok alive (Worker.step_sendTransaction_of_ok sent), succeeded.symm,
      sequence, ?_⟩
    exact RpcSnapshotSource.fetches_bumpAccountSeq _ _

end Server

/-- **A transaction does what its simulation showed.**  After a simulation the gateway
may change or fail, and any commands may come that do not move the clock nor touch an
entry that the call reads: the transaction that is sent then has the result that was
simulated, at the ledger that was simulated, and asks the gateway for nothing. -/
theorem sent_as_simulated {world : World X} {server server₁ server₂ : Server X}
    {hostFunction : HostFunction} {sourceAccount : AccountId} {size : UInt32}
    {sim : SimulationReply}
    (simulated : server.step world (.simulateTransaction hostFunction sourceAccount size) =
      (.ok sim, server₁)) (client' : RpcClient) {between : List (Command X)}
    (leave : (Server.machine (world.over client')).AllSteps
      (Server.Leaves (world.over client') (server₁.callReads world hostFunction sourceAccount))
      between server₁)
    (reached : ((Server.machine (world.over client')).run between server₁).2 = server₂)
    (alive : server₂.alive = true) (envelopeBytes : X.Buf) :
    ∃ sent server₃,
      server₂.step (world.over client')
        (.sendTransaction envelopeBytes hostFunction sourceAccount) = (.ok sent, server₃) ∧
      sent.receipt.result = sim.result ∧ sent.receipt.ledger = sim.latestLedger ∧
      server₃.worker.env.source.fetches = server₂.worker.env.source.fetches := by
  obtain ⟨kept, result, ledger⟩ := Server.keeps_of_simulated simulated
  have stillKept := Server.Keeps.run leave kept
  rw [reached] at stillKept
  obtain ⟨sent, server₃, stepped, sentResult, sentLedger, fetches⟩ :=
    @Server.step_sendTransaction_of_keeps X (world.over client') server₁ server₂ hostFunction
      sourceAccount alive stillKept envelopeBytes
  refine ⟨sent, server₃, stepped, ?_, sentLedger.trans ledger.symm, fetches⟩
  rw [sentResult, result]
  rfl

end

namespace Sample

/-- A world whose gateway is gone. -/
def gone : World xdr := world.over fun _ _ => .error (.transport "gone")

/-- The server has simulated a call that initialises the contract. -/
def simulatedInit : Server xdr :=
  ((server []).step world (.simulateTransaction (call "init" []) (account 1) 0)).2

/-- Somebody writes an account. -/
def writeAccount : List (Command xdr) :=
  [.setLedgerEntry (.account (account 2)) (accountEntry 2 5).2.1 none]

end Sample

open Sample in
theorem sent_as_simulated_init :
    ∃ sent server₃,
      ((Server.machine gone).run writeAccount simulatedInit).2.step gone
        (.sendTransaction (.raw []) (call "init" []) (account 1)) = (.ok sent, server₃) ∧
      sent.receipt.result = .ok .void := by
  have simulated : (server []).step world
      (.simulateTransaction (call "init" []) (account 1) 0) = (.ok _, simulatedInit) := rfl
  have leave : (Server.machine gone).AllSteps (Server.Leaves gone
      (simulatedInit.callReads world (call "init" []) (account 1))) writeAccount simulatedInit := by
    refine ⟨⟨nofun, fun key mem touches => ?_⟩, trivial⟩
    cases List.mem_singleton.mp mem
    rcases touches with ⟨-, same⟩ | ⟨_, _, _, same, -⟩
    · cases same
    · cases same
  obtain ⟨sent, server₃, stepped, result, -⟩ :=
    sent_as_simulated simulated _ leave rfl rfl (.raw [])
  exact ⟨sent, server₃, stepped, result⟩

end SorobanFork
