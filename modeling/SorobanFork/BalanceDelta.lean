import SorobanFork.DealToken
import SorobanFork.Halves

/-!
# The difference that `fork_setBalance` mints or burns

The handler subtracts the simulated balance from the target as `i128`s, and a
contract may report any `i128`, negative ones included.  `DealsExactly` is what
it should do: mint or burn the exact difference, or refuse one that no `i128`
holds.  A subtraction that overflows panics in a build that checks for overflow;
in a build that wraps it burns the difference less `2 ^ 128`, except for the one
difference that wraps to the least `i128` and is refused (`dealsExactly_iff`).
-/

namespace SorobanFork

open Lib

/-! ## What the handler does with a difference -/

/-- Nothing if the balance is the target, a mint or a burn of the exact
difference, a refusal of a difference that no `i128` holds, and never a panic. -/
structure DealsExactly (request : TokenBalanceRequest) (current : Int)
    (calls : List InvokeContractArgs) (answer : Except HandlerError Response) : Prop where
  nothing : request.target.toInt = current →
    calls = [tokenFunction request.contract request.toAccount "balance" []]
  mint : current < request.target.toInt → request.target.toInt - current < 2 ^ 127 →
    ∃ amount, amount.toInt = request.target.toInt - current ∧
      calls = [tokenFunction request.contract request.toAccount "balance" [],
        tokenFunction request.contract request.toAccount "mint" [.i128 amount]]
  burn : request.target.toInt < current →
    ∃ amount, amount.toInt = current - request.target.toInt ∧
      calls = [tokenFunction request.contract request.toAccount "balance" [],
        tokenFunction request.contract request.toAccount "burn" [.i128 amount]]
  refused : 2 ^ 127 ≤ request.target.toInt - current →
    calls = [tokenFunction request.contract request.toAccount "balance" []] ∧
      ∃ e, answer = .error (.rpc e)
  noPanic : ∀ message, answer ≠ .error (.panic message)

section

variable {X : Xdr} {world : World X} {wire : Wire X} {request : TokenBalanceRequest}
  {replies : (cmd : Command X) → cmd.Reply} {parts : Int128Parts} {target current : I128}

theorem ssubOverflow_iff (nonneg : 0 ≤ target.toInt) :
    target.ssubOverflow current = true ↔ 2 ^ 127 ≤ target.toInt - current.toInt := by
  have bound := current.toInt_lt
  simp only [BitVec.ssubOverflow, Bool.or_eq_true, decide_eq_true_eq]
  omega

/-- A difference that an `i128` holds is exact. -/
theorem toInt_sub_of_fits (nonneg : 0 ≤ target.toInt)
    (fits : target.toInt - current.toInt < 2 ^ 127) :
    (target - current).toInt = target.toInt - current.toInt := by
  apply BitVec.toInt_sub_of_not_ssubOverflow
  rw [ssubOverflow_iff nonneg]
  omega

/-- One that it does not hold wraps to a negative number. -/
theorem toInt_sub_of_overflow (overflow : 2 ^ 127 ≤ target.toInt - current.toInt) :
    (target - current).toInt = target.toInt - current.toInt - 2 ^ 128 := by
  have above := target.toInt_lt
  have below := current.le_toInt
  rw [BitVec.toInt_sub, Int.bmod_def]
  omega

/-- The answer of `balanceChange` to a difference that is not zero. -/
theorem balanceChange_cases {delta : I128} (differ : delta ≠ 0) :
    (0 < delta.toInt ∧ balanceChange delta = .ok ("mint", delta)) ∨
      (delta.toInt < 0 ∧ delta.toInt ≠ -2 ^ 127 ∧
        ∃ amount, balanceChange delta = .ok ("burn", amount) ∧ amount.toInt = -delta.toInt) ∨
      (delta.toInt = -2 ^ 127 ∧ ∃ e, balanceChange delta = .error (.rpc e)) := by
  have notZero : delta.toInt ≠ 0 := fun zero => differ (eq_zero_iff_toInt.mpr zero)
  by_cases positive : 0 < delta.toInt
  · exact .inl ⟨positive, if_pos positive⟩
  · have least : delta = BitVec.intMin 128 ↔ delta.toInt = -2 ^ 127 := by
      rw [← BitVec.toInt_inj, BitVec.toInt_intMin]
      rfl
    rw [balanceChange, if_neg positive, checkedAbs]
    by_cases same : delta = BitVec.intMin 128
    · rw [if_pos same]
      exact .inr (.inr ⟨least.mp same, _, rfl⟩)
    · have size := BitVec.toInt_abs_eq_natAbs_of_ne_intMin same
      rw [if_neg same]
      exact .inr (.inl ⟨by omega, fun is => same (least.mpr is), _, rfl, by omega⟩)

/-- The calls of a whole request. -/
def requestCalls (world : World X) (wire : Wire X) (replies : (cmd : Command X) → cmd.Reply)
    (params : wire.Json) : List InvokeContractArgs :=
  ((handleForkSetBalance world wire params).run.asked replies).filterMap Command.contractCall?

/-- Its answer. -/
def requestAnswer (world : World X) (wire : Wire X) (replies : (cmd : Command X) → cmd.Reply)
    (params : wire.Json) : Except HandlerError Response :=
  (handleForkSetBalance world wire params).run.value replies

theorem handleForkSetBalance_token {params : wire.Json}
    (decoded : decodeSetBalance wire params = .ok (.inr request)) :
    handleForkSetBalance world wire params = handleSetTokenBalance world wire request := by
  rw [handleForkSetBalance, decoded, decoded_ok_bind]

/-- A difference that an `i128` holds is minted or burnt. -/
theorem dealsExactly_of_fits (nonneg : 0 ≤ request.target.toInt)
    (simulated : SimulationReply.result
      (replies (.simulateTransaction (request.call "balance" none) zeroSource 0)) =
        .ok (.i128 parts))
    (fits : request.target.toInt - parts.toInt < 2 ^ 127) :
    DealsExactly request parts.toInt (handlerCalls world wire replies request)
      (handlerAnswer world wire replies request) := by
  rw [← toInt_joinI128] at fits ⊢
  have exact_ := toInt_sub_of_fits nonneg fits
  have bound := (joinI128 parts).toInt_lt
  have difference : subI128 world request.target (joinI128 parts) =
      .ok (request.target - joinI128 parts) := by
    have noOverflow : request.target.ssubOverflow (joinI128 parts) = false := by
      rw [Bool.eq_false_iff, ne_eq, ssubOverflow_iff nonneg]
      omega
    rw [subI128, noOverflow, Bool.and_false, if_neg Bool.false_ne_true]
  by_cases zero : request.target - joinI128 parts = 0
  · have same : request.target.toInt - (joinI128 parts).toInt = 0 := by
      rw [← exact_, eq_zero_iff_toInt.mp zero]
    rw [zero] at difference
    obtain ⟨calls, response, answer⟩ := handler_of_zero simulated difference
    rw [calls, answer]
    exact ⟨fun _ => rfl, fun more => absurd more (by omega), fun less => absurd less (by omega),
      fun overflow => absurd overflow (by omega), fun _ panicked => by cases panicked⟩
  · rcases balanceChange_cases zero with ⟨more, change⟩ | ⟨less, -, amount, change, size⟩ |
      ⟨least, -⟩
    · obtain ⟨calls, noPanic⟩ := handler_of_change simulated difference zero change
      rw [calls]
      refine ⟨fun same => absurd same (by omega), fun _ _ => ?_, fun less => absurd less (by omega),
        fun overflow => absurd overflow (by omega), noPanic⟩
      exact ⟨_, (toInt_i128ToParts _).trans exact_, rfl⟩
    · obtain ⟨calls, noPanic⟩ := handler_of_change simulated difference zero change
      rw [calls]
      refine ⟨fun same => absurd same (by omega), fun more => absurd more (by omega), fun _ => ?_,
        fun overflow => absurd overflow (by omega), noPanic⟩
      refine ⟨_, (toInt_i128ToParts _).trans ?_, rfl⟩
      omega
    · omega

/-- A build that checks panics at a difference that overflows. -/
theorem not_dealsExactly_of_checked (checks : world.overflowChecks = true)
    (overflows : request.target.ssubOverflow (joinI128 parts) = true)
    (simulated : SimulationReply.result
      (replies (.simulateTransaction (request.call "balance" none) zeroSource 0)) =
        .ok (.i128 parts)) :
    ¬DealsExactly request parts.toInt (handlerCalls world wire replies request)
      (handlerAnswer world wire replies request) := by
  intro deals
  have panics : subI128 world request.target (joinI128 parts) =
      .error (.panic "attempt to subtract with overflow") := by
    rw [subI128, checks, overflows, Bool.and_true, if_pos rfl]
  exact deals.noPanic _ (handler_of_overflow simulated panics).2

/-- A build that wraps burns the wrapped difference, except `2 ^ 127`, which it refuses. -/
theorem dealsExactly_wrapped_iff (wraps : world.overflowChecks = false)
    (overflow : 2 ^ 127 ≤ request.target.toInt - (joinI128 parts).toInt)
    (simulated : SimulationReply.result
      (replies (.simulateTransaction (request.call "balance" none) zeroSource 0)) =
        .ok (.i128 parts)) :
    DealsExactly request parts.toInt (handlerCalls world wire replies request)
        (handlerAnswer world wire replies request) ↔
      request.target.toInt - parts.toInt = 2 ^ 127 := by
  have wrapped := toInt_sub_of_overflow overflow
  have below := request.target.toInt_lt
  have above := (joinI128 parts).le_toInt
  rw [toInt_joinI128] at overflow wrapped above
  have difference : subI128 world request.target (joinI128 parts) =
      .ok (request.target - joinI128 parts) := by
    rw [subI128, wraps, Bool.false_and, if_neg Bool.false_ne_true]
  have differ : request.target - joinI128 parts ≠ 0 := by
    rw [ne_eq, eq_zero_iff_toInt]
    omega
  rcases balanceChange_cases differ with ⟨more, -⟩ | ⟨-, notLeast, amount, change, -⟩ |
    ⟨least, e, refused⟩
  · omega
  · have calls : handlerCalls world wire replies request = _ :=
      (handler_of_change simulated difference differ change).1
    refine iff_of_false (fun deals => ?_) (by omega)
    have none := (deals.refused (by omega)).1
    rw [calls] at none
    cases none
  · obtain ⟨calls, answer⟩ := handler_of_refused simulated difference differ refused
    refine iff_of_true ?_ (by omega)
    rw [calls, answer]
    exact ⟨fun _ => rfl, fun _ fits => absurd fits (by omega), fun less => absurd less (by omega),
      fun _ => ⟨rfl, e, rfl⟩, fun _ panicked => by cases panicked⟩

/-- **The difference is exact or refused.**  For every amount and every balance
that a contract may report, the token path deals exactly if and only if the
difference fits in an `i128`, or the build wraps and the difference is `2 ^ 127`. -/
theorem dealsExactly_iff {params : wire.Json}
    (decoded : decodeSetBalance wire params = .ok (.inr request))
    (simulated : SimulationReply.result
      (replies (.simulateTransaction (request.call "balance" none) zeroSource 0)) =
        .ok (.i128 parts)) :
    DealsExactly request parts.toInt (requestCalls world wire replies params)
        (requestAnswer world wire replies params) ↔
      request.target.toInt - parts.toInt < 2 ^ 127 ∨
        world.overflowChecks = false ∧ request.target.toInt - parts.toInt = 2 ^ 127 := by
  have nonneg := target_nonneg decoded
  have handler : handleForkSetBalance world wire params =
      handleSetTokenBalance world wire request := handleForkSetBalance_token decoded
  rw [requestCalls, requestAnswer, handler]
  change DealsExactly _ _ (handlerCalls world wire replies request)
    (handlerAnswer world wire replies request) ↔ _
  by_cases fits : request.target.toInt - parts.toInt < 2 ^ 127
  · exact iff_of_true (dealsExactly_of_fits nonneg simulated fits) (.inl fits)
  · have overflow : 2 ^ 127 ≤ request.target.toInt - (joinI128 parts).toInt := by
      rw [toInt_joinI128]
      omega
    rw [or_iff_right fits]
    cases checks : world.overflowChecks with
    | true =>
        have overflows := (ssubOverflow_iff nonneg).mpr overflow
        exact iff_of_false (not_dealsExactly_of_checked checks overflows simulated)
          fun wraps => by cases wraps.1
    | false =>
        rw [dealsExactly_wrapped_iff checks overflow simulated]
        exact (and_iff_right rfl).symm

end

/-! ## A token that reports a negative balance -/

namespace Sample

/-- Set the balance of account 1 to the largest `i128`. -/
def largestParams : Json :=
  .setBalance ⟨"G1", "170141183460469231731687303715884105727", some (.contract "C1")⟩

def largestRequest : TokenBalanceRequest := ⟨account 1, BitVec.intMax 128, bytes32 1⟩

/-- The world in a build that wraps. -/
def releaseWorld : World xdr := { world with overflowChecks := false }

/-- The replies of a worker whose host returns the balance from every call. -/
def repliesOf (balance : Int128Parts) (cmd : Command xdr) : cmd.Reply :=
  ((EagerWorker.ofWorker upstream (server []).worker).step
    { world with invoke := fun _ _ _ => .ret (outcome (.ok (.i128 balance)) []) } cmd).1

end Sample

open Sample in
/-- The balance is -2 and is set to the largest `i128`: a build that wraps burns
the largest `i128`, and one that checks panics. -/
theorem negative_balance_overflows :
    requestCalls releaseWorld (wire []) (repliesOf ⟨-1, -2⟩) largestParams =
        [tokenFunction (bytes32 1) (account 1) "balance" [],
          tokenFunction (bytes32 1) (account 1) "burn" [.i128 ⟨Int64.maxValue, -1⟩]] ∧
      ¬DealsExactly largestRequest (Int128Parts.toInt ⟨-1, -2⟩)
        (requestCalls releaseWorld (wire []) (repliesOf ⟨-1, -2⟩) largestParams)
        (requestAnswer releaseWorld (wire []) (repliesOf ⟨-1, -2⟩) largestParams) ∧
      requestAnswer world (wire []) (repliesOf ⟨-1, -2⟩) largestParams =
        .error (.panic "attempt to subtract with overflow") ∧
      ¬DealsExactly largestRequest (Int128Parts.toInt ⟨-1, -2⟩)
        (requestCalls world (wire []) (repliesOf ⟨-1, -2⟩) largestParams)
        (requestAnswer world (wire []) (repliesOf ⟨-1, -2⟩) largestParams) := by
  have burns : requestCalls releaseWorld (wire []) (repliesOf ⟨-1, -2⟩) largestParams =
      [tokenFunction (bytes32 1) (account 1) "balance" [],
        tokenFunction (bytes32 1) (account 1) "burn" [.i128 ⟨Int64.maxValue, -1⟩]] := by
    decide +kernel
  have panics : requestAnswer world (wire []) (repliesOf ⟨-1, -2⟩) largestParams =
      .error (.panic "attempt to subtract with overflow") := by decide
  refine ⟨burns, fun deals => ?_, panics, fun deals => deals.noPanic _ panics⟩
  have none := (deals.refused (by decide)).1
  rw [burns] at none
  cases none

open Sample in
theorem dealsExactly_iff_lowered :
    DealsExactly largestRequest 0
        (requestCalls releaseWorld (wire []) (repliesOf ⟨0, 0⟩) largestParams)
        (requestAnswer releaseWorld (wire []) (repliesOf ⟨0, 0⟩) largestParams) ↔
      largestRequest.target.toInt - 0 < 2 ^ 127 ∨
        releaseWorld.overflowChecks = false ∧ largestRequest.target.toInt - 0 = 2 ^ 127 :=
  @dealsExactly_iff xdr releaseWorld (wire []) largestRequest (repliesOf ⟨0, 0⟩) ⟨0, 0⟩
    largestParams rfl rfl

end SorobanFork
