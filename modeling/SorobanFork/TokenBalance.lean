import SorobanFork.Eager
import SorobanFork.Server.Concurrent

/-!
# `fork_setBalance` on contract tokens

The handler simulates `balance` in one command and mints or burns the
difference to its target in a later one.  `setTokenBalance_moves_by_difference`
says what that does to the balance in every interleaving: the send moves it by
the difference that the simulation gave, so it hits the target exactly when the
balance just before the send is still the simulated one.

`IsToken` is what the result assumes of the contract; it speaks about the
host's invocations on a ledger held in full, and `ForkedEnv.shown` is the ledger a
fork shows.
-/

namespace SorobanFork

open Lib

section

variable {X : Xdr}

/-- The ledger a fork shows, with absence where a read would panic. -/
def ForkedEnv.shown (upstream : Upstream) (env : ForkedEnv X) : LedgerMap :=
  fun key => (env.source.view upstream key).join

namespace TokenBalanceRequest

variable (request : TokenBalanceRequest) (world : World X)

/-- The invocation of a token function on a ledger held in full. -/
def invocation (fnName : String) (amount : Option I128) (info : LedgerInfo) (ledger : LedgerMap) :
    Invocation X :=
  (world.invoke info (request.call fnName amount) zeroSource).value ledger

/-- The balance of the account on a ledger: what `balance` returns. -/
def balanceOn (info : LedgerInfo) (ledger : LedgerMap) : Option Int :=
  match (request.invocation world "balance" none info ledger).txResult with
  | .ok (.i128 parts) => some (joinI128 parts).toInt
  | _ => none

/-- The balance of the account on the ledger a fork shows. -/
def balance (upstream : Upstream) (env : ForkedEnv X) : Option Int :=
  request.balanceOn world env.ledger (env.shown upstream)

/-- What the contract promises for the account: balances are not negative, a
successful mint or burn moves the balance by its amount, and a balance does not
depend on sequence numbers. -/
structure IsToken : Prop where
  nonneg : ∀ info ledger b, request.balanceOn world info ledger = some b → 0 ≤ b
  mint : ∀ info ledger amount value,
    (request.invocation world "mint" (some amount) info ledger).txResult = .ok value →
    ∃ b, request.balanceOn world info ledger = some b ∧
      request.balanceOn world info (ledger.applyChanges
        (request.invocation world "mint" (some amount) info ledger).changesToApply) =
          some (b + amount.toInt)
  burn : ∀ info ledger amount value,
    (request.invocation world "burn" (some amount) info ledger).txResult = .ok value →
    ∃ b, request.balanceOn world info ledger = some b ∧
      request.balanceOn world info (ledger.applyChanges
        (request.invocation world "burn" (some amount) info ledger).changesToApply) =
          some (b - amount.toInt)
  seqNum : ∀ info ledger id,
    request.balanceOn world info (ledger.bumpSeq id) = request.balanceOn world info ledger

end TokenBalanceRequest

end

/-! ## The amount of the mint or burn -/

section Amount

variable {delta amount : I128} {fnName : String}

/-- The difference of two non-negative `i128`s is exact. -/
theorem toInt_sub_of_nonneg {a b : I128} (ha : 0 ≤ a.toInt) (hb : 0 ≤ b.toInt) :
    (a - b).toInt = a.toInt - b.toInt := by
  have ha' := a.toInt_lt
  have hb' := b.toInt_lt
  apply BitVec.toInt_sub_of_not_ssubOverflow
  simp only [BitVec.ssubOverflow, Bool.or_eq_true, decide_eq_true_eq, not_or]
  constructor
  · omega
  · omega

/-- A difference is minted if it is positive, and else its absolute value is burnt. -/
theorem balanceChange_ok (change : balanceChange delta = .ok (fnName, amount)) :
    (fnName = "mint" ∧ amount.toInt = delta.toInt) ∨
      (fnName = "burn" ∧ amount.toInt = -delta.toInt) := by
  unfold balanceChange at change
  by_cases positive : 0 < delta.toInt
  · rw [if_pos positive] at change
    cases change
    exact .inl ⟨rfl, rfl⟩
  · rw [if_neg positive, checkedAbs] at change
    by_cases least : delta = BitVec.intMin 128
    · rw [if_pos least] at change
      cases change
    · rw [if_neg least] at change
      cases change
      have size := BitVec.toInt_abs_eq_natAbs_of_ne_intMin least
      refine .inr ⟨rfl, ?_⟩
      omega

theorem eq_zero_iff_toInt : delta = 0 ↔ delta.toInt = 0 := by
  rw [← BitVec.toInt_inj]
  rfl

variable {X : Xdr} {wire : Wire X}

theorem decodeTokenAmount_nonneg {text : String} {n : I128}
    (decoded : decodeTokenAmount wire text = .ok n) : 0 ≤ n.toInt := by
  unfold decodeTokenAmount at decoded
  rcases number : parseI128 text with e | m
  · rw [number] at decoded
    cases decoded
  · rw [number] at decoded
    by_cases negative : m.toInt < 0
    · simp only [if_pos negative] at decoded
      cases decoded
    · simp only [if_neg negative, Except.ok.injEq] at decoded
      rw [← decoded]
      omega

/-- The target of a decoded request is not negative. -/
theorem target_nonneg {params : wire.Json} {request : TokenBalanceRequest}
    (decoded : decodeSetBalance wire params = .ok (.inr request)) :
    0 ≤ request.target.toInt := by
  unfold decodeSetBalance at decoded
  obtain ⟨parsed, -, decoded⟩ := except_bind_eq_ok.mp decoded
  obtain ⟨account, -, decoded⟩ := except_bind_eq_ok.mp decoded
  cases asset : parsed.asset.getD .native with
  | contract contract =>
      rw [asset] at decoded
      obtain ⟨target, amount, decoded⟩ := except_bind_eq_ok.mp decoded
      obtain ⟨contract, -, decoded⟩ := except_bind_eq_ok.mp decoded
      cases decoded
      exact decodeTokenAmount_nonneg amount
  | _ =>
      rw [asset] at decoded
      obtain ⟨amount, -, decoded⟩ := except_bind_eq_ok.mp decoded
      obtain ⟨asset, -, decoded⟩ := except_bind_eq_ok.mp decoded
      cases decoded

end Amount

/-! ## The handler's commands -/

section

variable {X : Xdr} {κ : Type} [DecidableEq κ] {world : World X} {wire : Wire X}

/-- The simulation of an answered request, and its send, if the simulated
balance was not the target. -/
theorem turns_of_setTokenBalance {c : Clients κ (Command X) Command.Reply ActorError (Server X)
      (Except HandlerError Response)} {k : κ} {request : TokenBalanceRequest} {schedule : List κ}
    {response : Response}
    (asks : c.progs k = .ok (handleSetTokenBalance world wire request))
    (ended : (Clients.run (Server.step world) schedule c).progs k = .ok (.ret (.ok response))) :
    ∃ before rest sim current delta, schedule = before ++ k :: rest ∧ k ∉ before ∧
      let simulated := Clients.run (Server.step world) (before ++ [k]) c
      Server.step world (.simulateTransaction (request.call "balance" none) zeroSource 0)
          (Clients.run (Server.step world) before c).server = (.ok sim, simulated.server) ∧
        tokenBalance wire (SimulationReply.result sim) = .ok current ∧
        subI128 world request.target current = .ok delta ∧
        (delta = 0 ∧ simulated.progs k = .ok (.ret (.ok response)) ∨
          delta ≠ 0 ∧ ∃ between after fnName amount envelope sent value,
            rest = between ++ k :: after ∧ k ∉ between ∧
            balanceChange delta = .ok (fnName, amount) ∧
            Server.step world
                (.sendTransaction envelope (request.call fnName (some amount)) zeroSource)
                (Clients.run (Server.step world) between simulated).server =
              (.ok sent, (Clients.run (Server.step world) (between ++ [k]) simulated).server) ∧
            (SendReply.receipt sent).result = .ok value) := by
  obtain ⟨before, rest, sim, rfl, notBefore, simServed, simulated, ended⟩ :=
    Clients.exists_turn (Server.step world) asks ended
  -- a client that has ended with another result did not answer
  have never {p : Prog (Command X) Command.Reply (Except HandlerError Response)}
      {e : HandlerError} (failed : p = .ret (.error e))
      (at_p : (Clients.run (Server.step world) (before ++ [k]) c).progs k = .ok p) : False := by
    rw [failed] at at_p
    have still := Clients.progs_run_of_ret (Server.step world) rest at_p
    rw [still] at ended
    cases ended
  change _ = Except.ok (decoded (tokenBalance wire sim.result) >>= fun current =>
    decoded (subI128 world request.target current) >>= fun delta =>
    if delta = 0 then _ else _) at simulated
  rcases balance : tokenBalance wire sim.result with e | current
  · rw [balance] at simulated
    exact (never rfl simulated).elim
  rw [balance, decoded_ok_bind] at simulated
  rcases difference : subI128 world request.target current with e | delta
  · rw [difference] at simulated
    exact (never rfl simulated).elim
  rw [difference, decoded_ok_bind] at simulated
  refine ⟨before, rest, sim, current, delta, rfl, notBefore, simServed, balance, difference, ?_⟩
  by_cases same : delta = 0
  · rw [if_pos same] at simulated
    have still := Clients.progs_run_of_ret (Server.step world) rest simulated
    rw [ended] at still
    cases still
    exact .inl ⟨same, simulated⟩
  rw [if_neg same] at simulated
  rcases change : balanceChange delta with e | ⟨fnName, amount⟩
  · rw [change] at simulated
    exact (never rfl simulated).elim
  rw [change, decoded_ok_bind] at simulated
  obtain ⟨between, after, sent, rfl, notBetween, sendServed, answered, ended⟩ :=
    Clients.exists_turn (Server.step world) simulated ended
  simp only [Prog.ret_bind, ExceptT.bindCont] at answered
  rcases result : (SendReply.receipt sent).result with e | value
  · rw [result] at answered
    have still := Clients.progs_run_of_ret (Server.step world) after answered
    rw [ended] at still
    cases still
  · exact .inr ⟨same, between, after, fnName, amount, _, sent, value, rfl, notBetween, rfl,
      sendServed, result⟩

end

/-! ## What the two commands do to the balance -/

section Balance

variable {X : Xdr} {world : World X} {upstream : Upstream}

variable {request : TokenBalanceRequest} {env env' : ForkedEnv X}

/-- A transaction's changes are applied to the ledger shown; then the account is
bumped there, unless its key is not cached. -/
theorem shown_applied (upstream : Upstream) (env : ForkedEnv X)
    (changes : List (LedgerEntryChange X)) (account : AccountId) :
    (env.applied changes account).shown upstream =
        ((env.shown upstream).applyChanges changes).bumpSeq account ∨
      (env.applied changes account).shown upstream = (env.shown upstream).applyChanges changes := by
  have written : (fun key => ((env.source.applyChanges changes).2.view upstream key).join) =
      (env.shown upstream).applyChanges changes := by
    unfold LedgerMap.applyChanges ForkedEnv.shown
    rw [RpcSnapshotSource.view_applyChanges]
    exact RpcSnapshotSource.foldl_applyTo_map (fun m key => (m key).join)
      (fun m key value => Function.comp_update Option.join m key (some value)) changes _
  rw [← written]
  unfold ForkedEnv.shown ForkedEnv.applied
  generalize (env.source.applyChanges changes).2 = s
  rcases held : s.cached (.account account) with _ | value
  · right
    rw [RpcSnapshotSource.bumpAccountSeq_of_not_cached held]
  · left
    have present : s.view upstream (.account account) = some value := overlay_of_some held
    funext key
    rw [RpcSnapshotSource.view_bumpAccountSeq held, LedgerMap.bumpSeq]
    by_cases same : key = .account account
    · rw [same, Function.update_self, Function.update_self, present, Option.join_some,
        Option.join_some]
    · rw [Function.update_of_ne same, Function.update_of_ne same]

/-- Reading leaves the balance as it is. -/
theorem balance_of_onlyReads (fixed : world.client.Fixed upstream)
    (reads : ForkedEnv.OnlyReads world.client env env') :
    request.balance world upstream env' = request.balance world upstream env := by
  have shown : env'.shown upstream = env.shown upstream := by
    funext key
    rw [ForkedEnv.shown, ForkedEnv.shown, reads.view upstream fixed]
  rw [TokenBalanceRequest.balance, TokenBalanceRequest.balance, reads.ledger, shown]

/-- After a transaction the balance is the one on the ledger its changes leave. -/
theorem balance_applied (token : request.IsToken world) (changes : List (LedgerEntryChange X)) :
    request.balance world upstream (env.applied changes zeroSource) =
      request.balanceOn world env.ledger ((env.shown upstream).applyChanges changes) := by
  show request.balanceOn world env.ledger ((env.applied changes zeroSource).shown upstream) = _
  rcases shown_applied upstream env changes zeroSource with bumped | same
  · rw [bumped, token.seqNum]
  · rw [same]

variable {server server' : Server X}

theorem tokenBalance_ok {wire : Wire X} {result : Except String ScVal} {current : I128}
    (read : tokenBalance wire result = .ok current) :
    ∃ parts, result = .ok (.i128 parts) ∧ current = joinI128 parts := by
  unfold tokenBalance at read
  split at read
  · rename_i parts
    cases read
    exact ⟨parts, rfl, rfl⟩
  all_goals cases read

/-- An answered simulation of `balance` returns the balance, which it leaves as
it is. -/
theorem balance_of_simulate {wire : Wire X} {sim : SimulationReply} {current : I128}
    (fixed : world.client.Fixed upstream)
    (served : server.step world (.simulateTransaction (request.call "balance" none) zeroSource 0) =
      (.ok sim, server'))
    (read : tokenBalance wire sim.result = .ok current) :
    request.balance world upstream server'.worker.env = some current.toInt := by
  obtain ⟨-, w, ran, rfl⟩ := Server.step_ok_iff.mp served
  have readOnly : Command.ReadOnly (X := X)
      (.simulateTransaction (request.call "balance" none) zeroSource 0) := trivial
  obtain ⟨reads, -, -⟩ := Worker.step_onlyReads world server.worker readOnly
  rw [ran] at reads
  have simulated : simulateTransaction world (request.call "balance" none) zeroSource 0
      server.worker.env = (.ok sim, w.env) := by
    rw [Worker.step] at ran
    rcases outcome : simulateTransaction world (request.call "balance" none) zeroSource 0
      server.worker.env with ⟨reply, env⟩
    rw [outcome] at ran
    obtain ⟨rfl, rfl⟩ := Prod.mk.inj ran
    rfl
  obtain ⟨invocation, mid, invoked, result⟩ := simulateTransaction_ok simulated
  have value : request.invocation world "balance" none server.worker.env.ledger
      (server.worker.env.shown upstream) = invocation := ForkedEnv.value_of_read fixed invoked
  obtain ⟨parts, returned, rfl⟩ := tokenBalance_ok read
  rw [returned] at result
  show request.balance world upstream w.env = _
  rw [balance_of_onlyReads fixed reads, TokenBalanceRequest.balance,
    TokenBalanceRequest.balanceOn, value, ← result]

/-- An answered send that succeeded applied the changes of its invocation. -/
theorem balance_of_send {fnName : String} {amount : I128} {envelope : X.Buf} {sent : SendReply X}
    {value : ScVal} (fixed : world.client.Fixed upstream) (token : request.IsToken world)
    (served : server.step world
      (.sendTransaction envelope (request.call fnName (some amount)) zeroSource) =
        (.ok sent, server'))
    (succeeded : sent.receipt.result = .ok value) :
    ∃ invocation, invocation = request.invocation world fnName (some amount)
        server.worker.env.ledger (server.worker.env.shown upstream) ∧
      (∃ value, invocation.txResult = .ok value) ∧
      request.balance world upstream server'.worker.env =
        request.balanceOn world server.worker.env.ledger
          ((server.worker.env.shown upstream).applyChanges invocation.changesToApply) := by
  obtain ⟨-, w, ran, rfl⟩ := Server.step_ok_iff.mp served
  obtain ⟨invocation, mid, invoked, reads, result, ⟨⟨message, failed⟩, -⟩ | ⟨txResult, applied⟩⟩ :=
    Worker.step_sendTransaction_ok ran
  · rw [succeeded, failed] at result
    cases result
  · have shown : mid.shown upstream = server.worker.env.shown upstream := by
      funext key
      rw [ForkedEnv.shown, ForkedEnv.shown, reads.view upstream fixed]
    refine ⟨invocation, (ForkedEnv.value_of_read fixed invoked).symm, txResult, ?_⟩
    rw [applied, balance_applied token, shown, reads.ledger]

end Balance

/-- **The token path of `fork_setBalance`.**  In every interleaving of any
requests, an answered request either simulated its target balance and did
nothing more, or its send moved the balance by the difference between the target
and the simulated balance.  So it hits the target exactly when the balance just
before the send was still the simulated one. -/
theorem setTokenBalance_moves_by_difference {X : Xdr} {κ : Type} [DecidableEq κ]
    {world : World X} {wire : Wire X} {upstream : Upstream} (fixed : world.client.Fixed upstream)
    (requests : κ → String × wire.Json) (server : Server X) {k : κ}
    {request : TokenBalanceRequest} {schedule : List κ} {response : Response}
    (token : request.IsToken world) (method : (requests k).1 = "fork_setBalance")
    (decoded : decodeSetBalance wire (requests k).2 = .ok (.inr request))
    (answered : (Clients.run (Server.step world) schedule
      (concurrently world wire requests server)).progs k = .ok (.ret (.ok response))) :
    ∃ before rest simulatedBalance, schedule = before ++ k :: rest ∧ k ∉ before ∧
      let simulated := Clients.run (Server.step world) (before ++ [k])
        (concurrently world wire requests server)
      request.balance world upstream simulated.server.worker.env = some simulatedBalance ∧
        (simulatedBalance = request.target.toInt ∧
            simulated.progs k = .ok (.ret (.ok response)) ∨
          simulatedBalance ≠ request.target.toInt ∧
            ∃ between after balance, rest = between ++ k :: after ∧ k ∉ between ∧
              let atSend := Clients.run (Server.step world) between simulated
              let sent := Clients.run (Server.step world) (between ++ [k]) simulated
              request.balance world upstream atSend.server.worker.env = some balance ∧
                request.balance world upstream sent.server.worker.env =
                  some (balance + (request.target.toInt - simulatedBalance)) ∧
                (request.balance world upstream sent.server.worker.env =
                  some request.target.toInt ↔ balance = simulatedBalance)) := by
  have asks : (concurrently world wire requests server).progs k =
      .ok (handleSetTokenBalance world wire request) := by
    refine congrArg Except.ok ?_
    rw [method, dispatch_fork_setBalance, handleForkSetBalance, decoded, decoded_ok_bind]
  generalize concurrently world wire requests server = c at asks answered ⊢
  obtain ⟨before, rest, sim, current, delta, split, notBefore, simServed, read, difference,
    sends⟩ := turns_of_setTokenBalance asks answered
  have simulatedBalance := balance_of_simulate fixed simServed read
  -- neither number is negative, so the difference is exact
  have current_nonneg : 0 ≤ current.toInt := token.nonneg _ _ _ simulatedBalance
  have target_nonneg := target_nonneg decoded
  have exact_difference : delta.toInt = request.target.toInt - current.toInt := by
    rw [← toInt_sub_of_nonneg target_nonneg current_nonneg]
    unfold subI128 at difference
    split at difference
    · cases difference
    · rw [Except.ok.inj difference]
  refine ⟨before, rest, current.toInt, split, notBefore, simulatedBalance, ?_⟩
  rcases sends with ⟨zero, ended⟩ | ⟨nonzero, between, after, fnName, amount, envelope, sent, value,
    rfl, notBetween, change, sendServed, succeeded⟩
  · have same := eq_zero_iff_toInt.mp zero
    exact .inl ⟨by omega, ended⟩
  · have differs : delta.toInt ≠ 0 := fun same => nonzero (eq_zero_iff_toInt.mpr same)
    obtain ⟨invocation, rfl, ⟨result, txResult⟩, sentBalance⟩ :=
      balance_of_send fixed token sendServed succeeded
    refine .inr ⟨by omega, between, after, ?_⟩
    rcases balanceChange_ok change with ⟨rfl, size⟩ | ⟨rfl, size⟩
    · obtain ⟨balance, atSend, minted⟩ := token.mint _ _ amount result txResult
      rw [← sentBalance] at minted
      refine ⟨balance, rfl, notBetween, atSend, ?_, ?_⟩
      · rw [minted]
        congr 1
        omega
      · rw [minted, Option.some.injEq]
        omega
    · obtain ⟨balance, atSend, burnt⟩ := token.burn _ _ amount result txResult
      rw [← sentBalance] at burnt
      refine ⟨balance, rfl, notBetween, atSend, ?_, ?_⟩
      · rw [burnt]
        congr 1
        omega
      · rw [burnt, Option.some.injEq]
        omega

/-! ## A run -/

namespace Sample

variable {request : TokenBalanceRequest} {info : LedgerInfo} {ledger : LedgerMap}

/-- The slot that holds the balance of the request's account. -/
def balanceSlot (request : TokenBalanceRequest) : LedgerKey :=
  slotKey (.contract request.contract) (.account request.toAccount)

theorem readSlot_nonneg {found : Option EntryWithLiveUntil} {b : I128}
    (read : readSlot found = some b) : 0 ≤ b.toInt := by
  unfold readSlot at read
  split at read
  · cases read
    decide
  · split at read
    · split at read
      · split at read
        · cases read
          assumption
        · cases read
      · cases read
    · cases read

theorem balanceOn_eq :
    request.balanceOn world info ledger =
      (readSlot (ledger (balanceSlot request))).map (·.toInt) := by
  have invoked : request.invocation world "balance" none info ledger =
      reportBalance (ledger (balanceSlot request)) := rfl
  rw [TokenBalanceRequest.balanceOn, invoked, reportBalance]
  cases readSlot (ledger (balanceSlot request)) with
  | none => rfl
  | some balance =>
      show some (joinI128 (i128ToParts balance)).toInt = _
      rw [joinI128_i128ToParts]
      rfl

/-- A move of the balance that succeeds moves it by its amount. -/
theorem moveBalance_ok {delta : Int} {invocation : Invocation xdr} {value : ScVal}
    (moved : invocation =
      moveBalance (.contract request.contract) (.account request.toAccount) delta
        (ledger (balanceSlot request)))
    (succeeded : invocation.txResult = .ok value) :
    ∃ b, request.balanceOn world info ledger = some b ∧
      request.balanceOn world info (ledger.applyChanges invocation.changesToApply) =
        some (b + delta) := by
  unfold moveBalance at moved
  rcases slot : readSlot (ledger (balanceSlot request)) with _ | balance
  · rw [slot] at moved
    rw [moved] at succeeded
    cases succeeded
  rw [slot] at moved
  by_cases inRange : 0 ≤ balance.toInt + delta ∧ balance.toInt + delta < 2 ^ 127
  · simp only [inRange, and_self, if_true] at moved
    have exact_sum : (BitVec.ofInt 128 (balance.toInt + delta)).toInt = balance.toInt + delta := by
      rw [BitVec.toInt_ofInt]
      exact Int.bmod_eq_of_le (by omega) (by omega)
    have written : ledger.applyChanges invocation.changesToApply (balanceSlot request) =
        some (slotEntry (.contract request.contract) (.account request.toAccount)
          (i128ToScval (BitVec.ofInt 128 (balance.toInt + delta))), none) := by
      rw [moved]
      exact Function.update_self (balanceSlot request) _ ledger
    refine ⟨balance.toInt, by rw [balanceOn_eq, slot]; rfl, ?_⟩
    rw [balanceOn_eq, written]
    have parts : joinI128 (i128ToParts (BitVec.ofInt 128 (balance.toInt + delta))) =
        BitVec.ofInt 128 (balance.toInt + delta) := joinI128_i128ToParts _
    simp only [readSlot, slotEntry, i128ToScval, parts, exact_sum, inRange.1, if_true,
      Option.map_some]
  · simp only [inRange, if_false] at moved
    rw [moved] at succeeded
    cases succeeded

theorem isToken (request : TokenBalanceRequest) : request.IsToken world where
  nonneg info ledger b held := by
    rw [balanceOn_eq, Option.map_eq_some_iff] at held
    obtain ⟨balance, read, rfl⟩ := held
    exact readSlot_nonneg read
  mint info ledger amount value succeeded := by
    have moved : request.invocation world "mint" (some amount) info ledger =
        moveBalance (.contract request.contract) (.account request.toAccount)
          (joinI128 (i128ToParts amount)).toInt (ledger (balanceSlot request)) := rfl
    rw [joinI128_i128ToParts] at moved
    exact moveBalance_ok moved succeeded
  burn info ledger amount value succeeded := by
    have moved : request.invocation world "burn" (some amount) info ledger =
        moveBalance (.contract request.contract) (.account request.toAccount)
          (-(joinI128 (i128ToParts amount)).toInt) (ledger (balanceSlot request)) := rfl
    rw [joinI128_i128ToParts] at moved
    exact moveBalance_ok moved succeeded
  seqNum info ledger id := by
    have other : balanceSlot request ≠ .account id := by simp [balanceSlot, slotKey]
    rw [balanceOn_eq, balanceOn_eq, LedgerMap.bumpSeq, Function.update_of_ne other]

/-- Two requests for a balance of 100 of account 1. -/
def sameTarget : Bool → String × Json := fun _ =>
  ("fork_setBalance", .setBalance ⟨"G1", "100", some (.contract "C1")⟩)

def hundred : TokenBalanceRequest := ⟨account 1, 100, bytes32 1⟩

/-- The two requests after a schedule of their commands. -/
def sameTargetAfter (schedule : List Bool) :
    Clients Bool (Command xdr) Command.Reply ActorError (Server xdr)
      (Except HandlerError Response) :=
  Clients.run (Server.step world) schedule (concurrently world (wire []) sameTarget (server []))

end Sample

open Sample in
/-- Both requests simulate before either mints: both answer ok, and the second
mint leaves twice the target. -/
theorem concurrent_setBalance_doubles :
    decodeSetBalance (wire []) (sameTarget true).2 = .ok (.inr hundred) ∧
      (sameTargetAfter [false, true, false, true, false, true]).progs true =
        .ok (.ret (.ok (.setBalance ⟨true, 100⟩))) ∧
      hundred.balance world (fun key => .ok (upstream key))
        (sameTargetAfter [false, true, false, true]).server.worker.env = some 200 :=
  ⟨rfl, rfl, by decide⟩

open Sample in
theorem setTokenBalance_moves_by_difference_sameTarget :
    ∃ before rest simulatedBalance,
      [false, true, false, true, false, true] = before ++ true :: rest ∧ true ∉ before ∧
      let simulated := Clients.run (Server.step world) (before ++ [true])
        (concurrently world (wire []) sameTarget (server []))
      hundred.balance world (fun key => .ok (upstream key)) simulated.server.worker.env =
          some simulatedBalance ∧
        (simulatedBalance = hundred.target.toInt ∧
            simulated.progs true = .ok (.ret (.ok (.setBalance ⟨true, 100⟩))) ∨
          simulatedBalance ≠ hundred.target.toInt ∧
            ∃ between after balance, rest = between ++ true :: after ∧ true ∉ between ∧
              let atSend := Clients.run (Server.step world) between simulated
              let sent := Clients.run (Server.step world) (between ++ [true]) simulated
              hundred.balance world (fun key => .ok (upstream key)) atSend.server.worker.env =
                  some balance ∧
                hundred.balance world (fun key => .ok (upstream key)) sent.server.worker.env =
                  some (balance + (hundred.target.toInt - simulatedBalance)) ∧
                (hundred.balance world (fun key => .ok (upstream key)) sent.server.worker.env =
                  some hundred.target.toInt ↔ balance = simulatedBalance)) :=
  @setTokenBalance_moves_by_difference xdr Bool _ world (wire []) (fun key => .ok (upstream key))
    fixed sameTarget (server []) true hundred [false, true, false, true, false, true]
    (.setBalance ⟨true, 100⟩) (isToken hundred) rfl rfl rfl

end SorobanFork
