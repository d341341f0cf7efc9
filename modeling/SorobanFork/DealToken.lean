import SorobanFork.TokenBalance

/-!
# `deal_token` and `fork_setBalance` on the same token (`lib.rs`)

The library sets a token balance by calling the token directly, the server by
the commands of `handleSetTokenBalance`.  `tokenCalls` is what both are meant to
call: `balance`, and then a `mint` or a `burn` of the difference as an `i128`.

The handler makes these calls for all amounts (`handlerCalls_eq`).  The library
passes the burnt amount through `unsigned_abs`, so it arrives as a `u128`
(`dealCalls_eq`): the two agree exactly when there is nothing to burn.
-/

namespace SorobanFork

open Lib

/-! ## The library's implementation -/

/-- Why `deal_token` panics by itself; a call that fails panics inside the host. -/
inductive DealPanic : Type
  /-- "attempt to subtract with overflow" -/
  | subtractOverflow
  /-- A call returned a value of another type than expected. -/
  | conversion
deriving DecidableEq

/-- A program that calls contracts; each call returns a value. -/
abbrev ContractProg (α : Type) : Type := Prog InvokeContractArgs (fun _ => ScVal) α

/-- `i128::unsigned_abs`, as a `u128`. -/
def unsignedAbs (n : I128) : BitVec 128 := n.abs

/-- A `u128` as the host passes it to a contract. -/
def u128ToScval (n : BitVec 128) : ScVal :=
  .u128 { hi := ⟨(n >>> 64).setWidth 64⟩, lo := ⟨n.setWidth 64⟩ }

/-- Read a returned value as an `i128`. -/
def i128FromScval : ScVal → Option I128
  | .i128 parts => some (joinI128 parts)
  | _ => none

/-- Read a returned value as `()`. -/
def unitFromScval : ScVal → Except DealPanic Unit
  | .void => .ok ()
  | _ => .error .conversion

/-- `ForkedEnv::deal_token`. -/
def dealToken (overflowChecks : Bool) (token toAddress : ScAddress) (amount : I128) :
    ContractProg (Except DealPanic Unit) :=
  .ask ⟨token, utf8 "balance", [.address toAddress]⟩ fun returned =>
    match i128FromScval returned with
    | none => .ret (.error .conversion)
    | some current =>
      if overflowChecks && amount.ssubOverflow current then .ret (.error .subtractOverflow)
      else
        let delta := amount - current
        if delta = 0 then .ret (.ok ())
        else if 0 < delta.toInt then
          .ask ⟨token, utf8 "mint", [.address toAddress, i128ToScval delta]⟩ fun returned =>
            .ret (unitFromScval returned)
        else
          .ask ⟨token, utf8 "burn", [.address toAddress, u128ToScval (unsignedAbs delta)]⟩
            fun returned => .ret (unitFromScval returned)

/-! ## The calls both are meant to make -/

/-- The contract call that a command executes. -/
def Command.contractCall? {X : Xdr} : Command X → Option InvokeContractArgs
  | .simulateTransaction (.invokeContract call) _ _ => some call
  | .sendTransaction _ (.invokeContract call) _ => some call
  | _ => none

/-- A call of a token function on an account. -/
def tokenFunction (token : Hash) (account : AccountId) (functionName : String)
    (amount : List ScVal) : InvokeContractArgs :=
  ⟨.contract token, utf8 functionName, .address (.account account) :: amount⟩

/-- Ask for the balance, then mint or burn the difference to the target. -/
def tokenCalls (token : Hash) (account : AccountId) (target current : Int) :
    List InvokeContractArgs :=
  tokenFunction token account "balance" [] ::
    if current < target then
      [tokenFunction token account "mint" [i128ToScval (BitVec.ofInt 128 (target - current))]]
    else if target < current then
      [tokenFunction token account "burn" [i128ToScval (BitVec.ofInt 128 (current - target))]]
    else []

section

variable {X : Xdr} {world : World X} {wire : Wire X} {request : TokenBalanceRequest}
  {current : I128}

/-- The calls of the library, when the calls return what `returns` says. -/
def dealCalls (overflowChecks : Bool) (returns : InvokeContractArgs → ScVal)
    (request : TokenBalanceRequest) : List InvokeContractArgs :=
  (dealToken overflowChecks (.contract request.contract) (.account request.toAccount)
    request.target).asked returns

/-- The calls of the handler, when the worker replies what `replies` says. -/
def handlerCalls (world : World X) (wire : Wire X) (replies : (cmd : Command X) → cmd.Reply)
    (request : TokenBalanceRequest) : List InvokeContractArgs :=
  ((handleSetTokenBalance world wire request).run.asked replies).filterMap Command.contractCall?

theorem ssubOverflow_of_nonneg {a b : I128} (ha : 0 ≤ a.toInt) (hb : 0 ≤ b.toInt) :
    a.ssubOverflow b = false := by
  have ha' := a.toInt_lt
  have hb' := b.toInt_lt
  simp only [BitVec.ssubOverflow, Bool.or_eq_false_iff, decide_eq_false_iff_not]
  constructor
  · omega
  · omega

/-- An `i128` is given back by its value. -/
theorem eq_ofInt {n : I128} {value : Int} (same : n.toInt = value) :
    n = BitVec.ofInt 128 value := by
  rw [← same, BitVec.ofInt_toInt]

section Amounts

variable {target : I128} {token : Hash} {account : AccountId}

theorem tokenCalls_self (n : Int) :
    tokenCalls token account n n = [tokenFunction token account "balance" []] := by
  rw [tokenCalls, if_neg (Int.lt_irrefl n), if_neg (Int.lt_irrefl n)]

theorem tokenCalls_of_lt (targetNonneg : 0 ≤ target.toInt) (currentNonneg : 0 ≤ current.toInt)
    (more : current.toInt < target.toInt) :
    tokenCalls token account target.toInt current.toInt =
      [tokenFunction token account "balance" [],
        tokenFunction token account "mint" [i128ToScval (target - current)]] := by
  have difference := toInt_sub_of_nonneg targetNonneg currentNonneg
  rw [tokenCalls, if_pos more, ← eq_ofInt difference]

theorem tokenCalls_of_gt (targetNonneg : 0 ≤ target.toInt) (currentNonneg : 0 ≤ current.toInt)
    (less : target.toInt < current.toInt) :
    tokenCalls token account target.toInt current.toInt =
      [tokenFunction token account "balance" [],
        tokenFunction token account "burn" [i128ToScval (target - current).abs]] := by
  have difference := toInt_sub_of_nonneg targetNonneg currentNonneg
  have bound := current.toInt_lt
  have notLeast : target - current ≠ BitVec.intMin 128 := by
    intro same
    have least := congrArg BitVec.toInt same
    rw [difference, BitVec.toInt_intMin] at least
    omega
  have absolute : (target - current).abs.toInt = current.toInt - target.toInt := by
    have size := BitVec.toInt_abs_eq_natAbs_of_ne_intMin notLeast
    omega
  rw [tokenCalls, if_neg (by omega), if_pos less, ← eq_ofInt absolute]

/-- The change of a difference that is not zero is the one that `tokenCalls` asks for. -/
theorem tokenCalls_of_balanceChange (targetNonneg : 0 ≤ target.toInt)
    (currentNonneg : 0 ≤ current.toInt) (differ : target - current ≠ 0) :
    ∃ fnName amount, balanceChange (target - current) = .ok (fnName, amount) ∧
      tokenCalls token account target.toInt current.toInt =
        [tokenFunction token account "balance" [],
          tokenFunction token account fnName [i128ToScval amount]] := by
  have difference := toInt_sub_of_nonneg targetNonneg currentNonneg
  rw [ne_eq, eq_zero_iff_toInt, difference] at differ
  by_cases more : current.toInt < target.toInt
  · refine ⟨"mint", target - current, if_pos (by omega), ?_⟩
    exact tokenCalls_of_lt targetNonneg currentNonneg more
  · have less : target.toInt < current.toInt := by omega
    have notLeast : target - current ≠ BitVec.intMin 128 := by
      intro same
      have least := congrArg BitVec.toInt same
      have bound := current.toInt_lt
      rw [difference, BitVec.toInt_intMin] at least
      omega
    refine ⟨"burn", (target - current).abs, ?_, tokenCalls_of_gt targetNonneg currentNonneg less⟩
    rw [balanceChange, if_neg (by omega), checkedAbs, if_neg notLeast]

end Amounts

section Handler

variable {replies : (cmd : Command X) → cmd.Reply} {parts : Int128Parts} {delta : I128}

/-- The handler's answer, when the worker replies what `replies` says. -/
def handlerAnswer (world : World X) (wire : Wire X) (replies : (cmd : Command X) → cmd.Reply)
    (request : TokenBalanceRequest) : Except HandlerError Response :=
  (handleSetTokenBalance world wire request).run.value replies

theorem handler_of_overflow {e : HandlerError}
    (simulated : SimulationReply.result
      (replies (.simulateTransaction (request.call "balance" none) zeroSource 0)) =
        .ok (.i128 parts))
    (overflow : subI128 world request.target (joinI128 parts) = .error e) :
    handlerCalls world wire replies request =
        [tokenFunction request.contract request.toAccount "balance" []] ∧
      handlerAnswer world wire replies request = .error e := by
  unfold handlerCalls handlerAnswer handleSetTokenBalance
  simp only [send_bind, ExceptT.run, Prog.asked, Prog.value_ask, simulated, tokenBalance,
    decoded_ok_bind, overflow, decoded_error_bind]
  exact ⟨rfl, rfl⟩

theorem handler_of_zero
    (simulated : SimulationReply.result
      (replies (.simulateTransaction (request.call "balance" none) zeroSource 0)) =
        .ok (.i128 parts))
    (zero : subI128 world request.target (joinI128 parts) = .ok 0) :
    handlerCalls world wire replies request =
        [tokenFunction request.contract request.toAccount "balance" []] ∧
      ∃ response, handlerAnswer world wire replies request = .ok response := by
  unfold handlerCalls handlerAnswer handleSetTokenBalance
  simp only [send_bind, ExceptT.run, Prog.asked, Prog.value_ask, simulated, tokenBalance,
    decoded_ok_bind, zero]
  exact ⟨rfl, _, rfl⟩

theorem handler_of_refused {e : HandlerError}
    (simulated : SimulationReply.result
      (replies (.simulateTransaction (request.call "balance" none) zeroSource 0)) =
        .ok (.i128 parts))
    (difference : subI128 world request.target (joinI128 parts) = .ok delta) (differ : delta ≠ 0)
    (refused : balanceChange delta = .error e) :
    handlerCalls world wire replies request =
        [tokenFunction request.contract request.toAccount "balance" []] ∧
      handlerAnswer world wire replies request = .error e := by
  unfold handlerCalls handlerAnswer handleSetTokenBalance
  simp only [send_bind, ExceptT.run, Prog.asked, Prog.value_ask, simulated, tokenBalance,
    decoded_ok_bind, difference, if_neg differ, refused, decoded_error_bind]
  exact ⟨rfl, rfl⟩

theorem handler_of_change {fnName : String} {amount : I128}
    (simulated : SimulationReply.result
      (replies (.simulateTransaction (request.call "balance" none) zeroSource 0)) =
        .ok (.i128 parts))
    (difference : subI128 world request.target (joinI128 parts) = .ok delta) (differ : delta ≠ 0)
    (change : balanceChange delta = .ok (fnName, amount)) :
    handlerCalls world wire replies request =
        [tokenFunction request.contract request.toAccount "balance" [],
          tokenFunction request.contract request.toAccount fnName [i128ToScval amount]] ∧
      ∀ message, handlerAnswer world wire replies request ≠ .error (.panic message) := by
  unfold handlerCalls handlerAnswer handleSetTokenBalance
  simp only [send_bind, ExceptT.run, Prog.asked, Prog.value_ask, simulated, tokenBalance,
    decoded_ok_bind, difference, if_neg differ, change]
  constructor
  · refine congrArg (List.cons _) (congrArg (List.cons _) ?_)
    -- what is left asks for the latest ledger at most
    split <;> rfl
  · intro message panicked
    split at panicked
    · cases panicked
    · cases panicked

end Handler

/-- The handler makes the calls it is meant to make. -/
theorem handlerCalls_eq {replies : (cmd : Command X) → cmd.Reply}
    (targetNonneg : 0 ≤ request.target.toInt) (currentNonneg : 0 ≤ current.toInt)
    (simulated : SimulationReply.result
      (replies (.simulateTransaction (request.call "balance" none) zeroSource 0)) =
        .ok (i128ToScval current)) :
    handlerCalls world wire replies request =
      tokenCalls request.contract request.toAccount request.target.toInt current.toInt := by
  have difference : subI128 world request.target (joinI128 (i128ToParts current)) =
      .ok (request.target - current) := by
    rw [joinI128_i128ToParts, subI128, ssubOverflow_of_nonneg targetNonneg currentNonneg,
      Bool.and_false, if_neg Bool.false_ne_true]
  by_cases zero : request.target - current = 0
  · have same : request.target.toInt = current.toInt := by
      have difference := toInt_sub_of_nonneg targetNonneg currentNonneg
      rw [eq_zero_iff_toInt.mp zero] at difference
      omega
    rw [zero] at difference
    rw [(handler_of_zero simulated difference).1, same, tokenCalls_self]
  · obtain ⟨fnName, amount, change, calls⟩ :=
      tokenCalls_of_balanceChange targetNonneg currentNonneg zero
    rw [(handler_of_change simulated difference zero change).1, calls]

/-- The library's calls: as meant to the increase of a balance, and with a `u128`
to its decrease. -/
theorem dealCalls_eq {overflowChecks : Bool} {returns : InvokeContractArgs → ScVal}
    (targetNonneg : 0 ≤ request.target.toInt) (currentNonneg : 0 ≤ current.toInt)
    (returned : returns (tokenFunction request.contract request.toAccount "balance" []) =
      i128ToScval current) :
    dealCalls overflowChecks returns request =
      if current.toInt ≤ request.target.toInt then
        tokenCalls request.contract request.toAccount request.target.toInt current.toInt
      else
        [tokenFunction request.contract request.toAccount "balance" [],
          tokenFunction request.contract request.toAccount "burn"
            [u128ToScval (request.target - current).abs]] := by
  have difference := toInt_sub_of_nonneg targetNonneg currentNonneg
  have read : i128FromScval (i128ToScval current) = some current :=
    congrArg some (joinI128_i128ToParts current)
  have noOverflow : (overflowChecks && request.target.ssubOverflow current) = false := by
    rw [ssubOverflow_of_nonneg targetNonneg currentNonneg, Bool.and_false]
  have balance : (⟨.contract request.contract, utf8 "balance",
      [.address (.account request.toAccount)]⟩ : InvokeContractArgs) =
      tokenFunction request.contract request.toAccount "balance" [] := rfl
  unfold dealCalls dealToken
  rw [Prog.asked, balance, returned]
  simp only [read, noOverflow, if_neg Bool.false_ne_true]
  rcases Int.lt_trichotomy current.toInt request.target.toInt with more | same | less
  · have differ : request.target - current ≠ 0 := by
      rw [ne_eq, eq_zero_iff_toInt]
      omega
    rw [if_neg differ, if_pos (by omega), if_pos (by omega),
      tokenCalls_of_lt targetNonneg currentNonneg more]
    rfl
  · have zero : request.target - current = 0 := by
      rw [eq_zero_iff_toInt]
      omega
    rw [if_pos zero, if_pos (by omega), same, tokenCalls_self]
    rfl
  · have differ : request.target - current ≠ 0 := by
      rw [ne_eq, eq_zero_iff_toInt]
      omega
    rw [if_neg differ, if_neg (by omega), if_neg (by omega)]
    rfl

/-- **Library and server agree unless the balance goes down.**  For amounts that
are not negative, both make the calls they are meant to make exactly if the
target is not below the current balance. -/
theorem setters_agree_iff {overflowChecks : Bool} {returns : InvokeContractArgs → ScVal}
    {replies : (cmd : Command X) → cmd.Reply}
    (targetNonneg : 0 ≤ request.target.toInt) (currentNonneg : 0 ≤ current.toInt)
    (returned : returns (tokenFunction request.contract request.toAccount "balance" []) =
      i128ToScval current)
    (simulated : SimulationReply.result
      (replies (.simulateTransaction (request.call "balance" none) zeroSource 0)) =
        .ok (i128ToScval current)) :
    (dealCalls overflowChecks returns request =
          tokenCalls request.contract request.toAccount request.target.toInt current.toInt ∧
        handlerCalls world wire replies request =
          tokenCalls request.contract request.toAccount request.target.toInt current.toInt) ↔
      current.toInt ≤ request.target.toInt := by
  rw [handlerCalls_eq targetNonneg currentNonneg simulated,
    dealCalls_eq targetNonneg currentNonneg returned]
  constructor
  · rintro ⟨same, -⟩
    by_contra burns
    rw [if_neg burns, tokenCalls_of_gt targetNonneg currentNonneg (by omega)] at same
    -- the amounts have different types
    cases same
  · intro covered
    exact ⟨if_pos covered, rfl⟩

end

/-! ## A balance that goes down -/

namespace Sample

/-- Set the balance of account 1 to 5. -/
def dealRequest : TokenBalanceRequest := ⟨account 1, 5, bytes32 1⟩

/-- The replies of a worker on whose ledger the account has the given balance. -/
def repliesAt (balance : I128) (cmd : Command xdr) : cmd.Reply :=
  ((EagerWorker.ofWorker upstream (server
    [(slotKey (.contract (bytes32 1)) (.account (account 1)),
      slotEntry (.contract (bytes32 1)) (.account (account 1)) (i128ToScval balance),
      none)]).worker).step world cmd).1

end Sample

open Sample in
/-- The balance is 8 and is set to 5: the server burns an `i128` 3, the library a
`u128` 3. -/
theorem deal_burns_u128 :
    handlerCalls world (wire []) (repliesAt 8) dealRequest =
        [tokenFunction (bytes32 1) (account 1) "balance" [],
          tokenFunction (bytes32 1) (account 1) "burn" [.i128 ⟨0, 3⟩]] ∧
      dealCalls true (fun _ => i128ToScval 8) dealRequest =
        [tokenFunction (bytes32 1) (account 1) "balance" [],
          tokenFunction (bytes32 1) (account 1) "burn" [.u128 ⟨0, 3⟩]] ∧
      dealCalls true (fun _ => i128ToScval 8) dealRequest ≠
        handlerCalls world (wire []) (repliesAt 8) dealRequest := by
  have handler : handlerCalls world (wire []) (repliesAt 8) dealRequest =
      tokenCalls (bytes32 1) (account 1) 5 8 :=
    @handlerCalls_eq xdr world (wire []) dealRequest 8 (repliesAt 8) (by decide) (by decide) rfl
  rw [handler]
  exact ⟨by decide, by decide, by decide⟩

open Sample in
theorem setters_agree_iff_raise :
    (dealCalls true (fun _ => i128ToScval 3) dealRequest =
          tokenCalls (bytes32 1) (account 1) 5 3 ∧
        handlerCalls world (wire []) (repliesAt 3) dealRequest =
          tokenCalls (bytes32 1) (account 1) 5 3) ↔ (3 : Int) ≤ 5 :=
  @setters_agree_iff xdr world (wire []) dealRequest 3 true (fun _ => i128ToScval 3) (repliesAt 3)
    (by decide) (by decide) rfl rfl

end SorobanFork
