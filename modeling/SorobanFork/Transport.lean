import SorobanFork.Retry

/-!
# HTTP exchanges (`rpc.rs`)

`tryOnce` makes an attempt out of an HTTP exchange: it tells the failures that may
pass from those for good by the status, and reports a status with a short piece of
the body.

`call_settles` is what a call comes to, whatever upstream does in its exchanges.
-/

namespace SorobanFork

open Lib

/-- An HTTP exchange: it got no response, or one with a status code and a body, which
may not be readable, and which is JSON or not. -/
inductive Exchange (α : Type) : Type
  | noResponse (error : String)
  | response (code : Nat) (text : Option String) (json : Except String (JsonRpcResponse α))

/-! ## The text of an error -/

/-- `ERROR_BODY_TRUNCATE_BYTES`; it counts characters. -/
def errorBodyTruncateBytes : Nat := 256

/-- `char::is_whitespace`. -/
def isWhitespace (c : Char) : Bool :=
  let n := c.toNat
  (9 ≤ n && n ≤ 13) || n == 0x20 || n == 0x85 || n == 0xA0 || n == 0x1680 ||
    (0x2000 ≤ n && n ≤ 0x200A) || n == 0x2028 || n == 0x2029 || n == 0x202F || n == 0x205F ||
    n == 0x3000

/-- `str::trim`. -/
def trim (s : String) : String :=
  String.ofList ((s.toList.dropWhile isWhitespace).reverse.dropWhile isWhitespace).reverse

def truncateChars (s : String) (maxChars : Nat) : String :=
  if s.length ≤ maxChars then s else (String.ofList (s.toList.take maxChars)).push '…'

def responseBodySnippet (text : Option String) : String :=
  match text with
  | none => "<no body>"
  | some body =>
    let trimmed := trim body
    if trimmed.isEmpty then "<empty body>" else truncateChars trimmed errorBodyTruncateBytes

theorem truncateChars_of_le {s : String} {maxChars : Nat} (short : s.length ≤ maxChars) :
    truncateChars s maxChars = s :=
  if_pos short

/-- What is cut off is at the end, and a sign is left in its place. -/
theorem truncateChars_of_lt {s : String} {maxChars : Nat} (long : maxChars < s.length) :
    (truncateChars s maxChars).toList = s.toList.take maxChars ++ ['…'] := by
  rw [truncateChars, if_neg (Nat.not_le_of_lt long), String.toList_push, String.toList_ofList]

theorem length_truncateChars (s : String) (maxChars : Nat) :
    (truncateChars s maxChars).length ≤ maxChars + 1 := by
  by_cases short : s.length ≤ maxChars
  · rw [truncateChars_of_le short]
    exact Nat.le_succ_of_le short
  · rw [← String.length_toList, truncateChars_of_lt (Nat.lt_of_not_le short), List.length_append,
      List.length_singleton]
    exact Nat.succ_le_succ (List.length_take_le _ _)

theorem truncateChars_ne_empty {s : String} (some : s ≠ "") {maxChars : Nat} :
    truncateChars s maxChars ≠ "" := by
  by_cases short : s.length ≤ maxChars
  · rwa [truncateChars_of_le short]
  · intro empty
    have chars := truncateChars_of_lt (Nat.lt_of_not_le short)
    rw [empty] at chars
    simp at chars

/-- A snippet says something, and not much. -/
theorem responseBodySnippet_short (text : Option String) :
    responseBodySnippet text ≠ "" ∧
      (responseBodySnippet text).length ≤ errorBodyTruncateBytes + 1 := by
  cases text with
  | none => exact ⟨by decide, by decide⟩
  | some body =>
      rw [responseBodySnippet]
      split
      case isTrue => exact ⟨by decide, by decide⟩
      case isFalse some =>
        refine ⟨truncateChars_ne_empty fun empty => some ?_, length_truncateChars _ _⟩
        rw [empty]
        rfl

/-! ## An attempt -/

def isSuccess (code : Nat) : Bool := 200 ≤ code && code < 300

def isServerError (code : Nat) : Bool := 500 ≤ code && code < 600

def isRetryable (code : Nat) : Bool :=
  code == 408 || code == 425 || code == 429 || isServerError code

section

variable {α : Type} (statusText : Nat → String)

/-- The error of a response that is not a success. -/
def httpError (code : Nat) (text : Option String) : ForkError :=
  .transport s!"HTTP {statusText code}: {responseBodySnippet text}"

/-- `try_once`; `statusText` displays a status code. -/
def tryOnce : Exchange α → Attempt α
  | .noResponse error => .error (.retry (.transport error))
  | .response code text json =>
    if isRetryable code then .error (.retry (httpError statusText code text))
    else if !isSuccess code then .error (.fatal (httpError statusText code text))
    else
      match json with
      | .ok parsed => .ok parsed
      | .error error => .error (.retry (.transport error))

end

namespace Exchange

variable {α : Type}

/-- The response to the request. -/
def Delivers (parsed : JsonRpcResponse α) : Exchange α → Prop
  | .response code _ json => (200 ≤ code ∧ code ≤ 299) ∧ json = .ok parsed
  | .noResponse _ => False

/-- The failure may pass: there is no response, or one that asks to try again, or one
whose body is cut off or otherwise no JSON-RPC response. -/
def Transient : Exchange α → Prop
  | .noResponse _ => True
  | .response code _ json =>
    (code = 408 ∨ code = 425 ∨ code = 429 ∨ 500 ≤ code ∧ code ≤ 599) ∨
      (200 ≤ code ∧ code ≤ 299) ∧ ¬∃ r, json = .ok r

/-- A failure is reported with what went wrong, or with the status and a snippet. -/
def Reports (statusText : Nat → String) (error : ForkError) : Exchange α → Prop
  | .noResponse text => error = .transport text
  | .response code text json =>
    (200 ≤ code ∧ code ≤ 299) ∧ (∃ e, json = .error e ∧ error = .transport e) ∨
      ¬(200 ≤ code ∧ code ≤ 299) ∧ ∃ snippet, snippet = responseBodySnippet text ∧
        snippet.length ≤ 257 ∧ error = .transport s!"HTTP {statusText code}: {snippet}"

end Exchange

section

variable {α : Type} {statusText : Nat → String} {x : Exchange α}

theorem isSuccess_iff {code : Nat} : isSuccess code = true ↔ 200 ≤ code ∧ code ≤ 299 := by
  rw [isSuccess, Bool.and_eq_true, decide_eq_true_eq, decide_eq_true_eq, Nat.lt_succ_iff]

theorem isRetryable_iff {code : Nat} :
    isRetryable code = true ↔
      code = 408 ∨ code = 425 ∨ code = 429 ∨ 500 ≤ code ∧ code ≤ 599 := by
  simp only [isRetryable, isServerError, Bool.or_eq_true, beq_iff_eq, Bool.and_eq_true,
    decide_eq_true_eq, Nat.lt_succ_iff, or_assoc]

theorem not_isSuccess_of_isRetryable {code : Nat} (retryable : isRetryable code = true) :
    isSuccess code = false := by
  rw [Bool.eq_false_iff]
  intro success
  have codes := isRetryable_iff.mp retryable
  have range := isSuccess_iff.mp success
  omega

/-- The statuses as `try_once` tells them apart. -/
theorem Exchange.transient_response {code : Nat} {text : Option String}
    {json : Except String (JsonRpcResponse α)} :
    (Exchange.response code text json).Transient ↔
      isRetryable code = true ∨ isSuccess code = true ∧ ¬∃ r, json = .ok r := by
  rw [Transient, isRetryable_iff, isSuccess_iff]

theorem Exchange.delivers_response {code : Nat} {text : Option String}
    {json : Except String (JsonRpcResponse α)} {parsed : JsonRpcResponse α} :
    (Exchange.response code text json).Delivers parsed ↔
      isSuccess code = true ∧ json = .ok parsed := by
  rw [Delivers, isSuccess_iff]

theorem tryOnce_of_isRetryable {code : Nat} {text : Option String}
    {json : Except String (JsonRpcResponse α)} (retryable : isRetryable code = true) :
    tryOnce statusText (.response code text json) =
      .error (.retry (httpError statusText code text)) :=
  if_pos retryable

theorem tryOnce_of_not_isSuccess {code : Nat} {text : Option String}
    {json : Except String (JsonRpcResponse α)} (retryable : isRetryable code = false)
    (success : isSuccess code = false) :
    tryOnce statusText (.response code text json) =
      .error (.fatal (httpError statusText code text)) := by
  simp only [tryOnce, retryable, success, Bool.false_eq_true, if_false, Bool.not_false, if_true]

theorem tryOnce_of_isSuccess {code : Nat} {text : Option String}
    {json : Except String (JsonRpcResponse α)} (success : isSuccess code = true) :
    tryOnce statusText (.response code text json) =
      json.mapError fun error => .retry (.transport error) := by
  have retryable : isRetryable code = false :=
    Bool.eq_false_iff.mpr fun retryable => by
      rw [not_isSuccess_of_isRetryable retryable] at success
      exact Bool.noConfusion success
  simp only [tryOnce, retryable, success, Bool.false_eq_true, if_false, Bool.not_true]
  cases json <;> rfl

/-- An attempt ends the call unless its failure may pass. -/
theorem tryOnce_ends_iff : Attempt.Ends (tryOnce statusText x) ↔ ¬x.Transient := by
  cases x with
  | noResponse error => exact ⟨False.elim, fun lasting => lasting trivial⟩
  | response code text json =>
      cases retryable : isRetryable code with
      | true =>
          rw [tryOnce_of_isRetryable retryable]
          exact ⟨False.elim, fun lasting =>
            lasting (Exchange.transient_response.mpr (.inl retryable))⟩
      | false =>
          rw [Exchange.transient_response]
          simp only [retryable, Bool.false_eq_true, false_or, not_and, not_not]
          cases success : isSuccess code with
          | false =>
              rw [tryOnce_of_not_isSuccess retryable success]
              exact ⟨fun _ none => Bool.noConfusion none, fun _ => trivial⟩
          | true =>
              rw [tryOnce_of_isSuccess success]
              cases json with
              | ok parsed => exact ⟨fun _ _ => ⟨parsed, rfl⟩, fun _ => trivial⟩
              | error error =>
                  refine ⟨False.elim, fun delivered => ?_⟩
                  obtain ⟨parsed, no⟩ := delivered rfl
                  nomatch no

theorem tryOnce_eq_ok_iff {parsed : JsonRpcResponse α} :
    tryOnce statusText x = .ok parsed ↔ x.Delivers parsed := by
  cases x with
  | noResponse error => exact ⟨nofun, False.elim⟩
  | response code text json =>
      cases success : isSuccess code with
      | true =>
          rw [tryOnce_of_isSuccess success, except_mapError_eq_ok, Exchange.delivers_response,
            success, eq_self, true_and]
      | false =>
          refine ⟨fun delivered => ?_, fun delivered => ?_⟩
          · cases retryable : isRetryable code with
            | true =>
                rw [tryOnce_of_isRetryable retryable] at delivered
                nomatch delivered
            | false =>
                rw [tryOnce_of_not_isSuccess retryable success] at delivered
                nomatch delivered
          · have no := success.symm.trans (Exchange.delivers_response.mp delivered).1
            exact Bool.noConfusion no

/-- An attempt that fails reports the exchange it was. -/
theorem reports_of_result {error : ForkError}
    (failed : Attempt.result (tryOnce statusText x) = .error (.error error)) :
    x.Reports statusText error := by
  cases x with
  | noResponse text =>
      cases failed
      rfl
  | response code text json =>
      cases success : isSuccess code with
      | true =>
          rw [tryOnce_of_isSuccess success] at failed
          cases json with
          | ok parsed => nomatch failed
          | error text =>
              cases failed
              exact .inl ⟨isSuccess_iff.mp success, text, rfl, rfl⟩
      | false =>
          have reported : error = httpError statusText code text := by
            cases retryable : isRetryable code with
            | true =>
                rw [tryOnce_of_isRetryable retryable] at failed
                cases failed
                rfl
            | false =>
                rw [tryOnce_of_not_isSuccess retryable success] at failed
                cases failed
                rfl
          have unsuccessful : ¬(200 ≤ code ∧ code ≤ 299) := fun range => by
            rw [isSuccess_iff.mpr range] at success
            cases success
          exact .inr ⟨unsuccessful, _, rfl, (responseBodySnippet_short text).2, reported⟩

end

/-! ## A call -/

section

variable {Q α : Type} {statusText : Nat → String}

/-- What a call with a number of retries comes to, when upstream answers its attempts
with `exchanges` and it makes `made` of them. -/
structure CallSettled (statusText : Nat → String) (retries : UInt32) (exchanges : Nat → Exchange α)
    (made : Nat) (outcome : Except RpcFailure (JsonRpcResponse α)) : Prop where
  some : 0 < made
  few : made ≤ retries.toNat + 1
  /-- It tries again only after a failure that may pass, -/
  retried : ∀ i, i + 1 < made → (exchanges i).Transient
  /-- and as long as there are retries left it does. -/
  stopped : made ≤ retries.toNat → ¬(exchanges (made - 1)).Transient
  delivered : ∀ parsed, outcome = .ok parsed ↔
    ∃ i ≤ retries.toNat, (exchanges i).Delivers parsed ∧ ∀ j < i, (exchanges j).Transient
  /-- The error is that of the last exchange. -/
  reported : ∀ failure, outcome = .error failure →
    ∃ error, failure = .error error ∧ (exchanges (made - 1)).Reports statusText error

theorem Exchange.Delivers.not_transient {x : Exchange α} {parsed : JsonRpcResponse α}
    (delivers : x.Delivers parsed) : ¬x.Transient := by
  have succeeds : tryOnce (fun _ => "") x = .ok parsed := tryOnce_eq_ok_iff.mpr delivers
  rw [← @tryOnce_ends_iff α fun _ => "", succeeds]
  trivial

/-- The result of an attempt is never a panic. -/
theorem exists_of_result {attempt : Attempt α} {failure : RpcFailure}
    (failed : Attempt.result attempt = .error failure) : ∃ error, failure = .error error := by
  rcases attempt with (e | e) | parsed
  · exact ⟨e, (Except.error.inj failed).symm⟩
  · exact ⟨e, (Except.error.inj failed).symm⟩
  · nomatch failed

/-- **What a call comes to.**  Whatever upstream does in its exchanges, a call returns a
response if one of the first `retries + 1` exchanges delivers it, after failures that
may pass, and else the error of its last exchange. -/
theorem call_settles {config : RpcConfig} (fits : config.retries ≠ UInt32.ofNat (2 ^ 32 - 1))
    (overflowChecks : Bool) (statusText : Nat → String) (request : Q)
    (exchanges : Nat → Exchange α) :
    ∃ made outcome,
      (rpcPostTimed overflowChecks config request).run
          (Prog.logged (serveOutcomes fun n => tryOnce statusText (exchanges n))) (0, []) =
        (.ok outcome, made,
          schedule request (fun n => tryOnce statusText (exchanges n)) 0 (made - 1)) ∧
      CallSettled statusText config.retries exchanges made outcome := by
  have total : 0 + (config.retries.toNat + 1) = (config.retries + 1).toNat := by
    rw [toNat_totalAttempts fits, Nat.zero_add]
  obtain ⟨retries, few, before, after, ran⟩ :=
    @run_retryLoop Q α (.transport "retry loop exhausted with no recorded error") request
      (fun n => tryOnce statusText (exchanges n)) _ _ _ total none []
  simp only [Nat.zero_add, tryOnce_ends_iff, not_not] at before after ran
  refine ⟨retries + 1, Attempt.result (tryOnce statusText (exchanges retries)), ?_,
    Nat.succ_pos _, Nat.succ_le_succ few, ?_, after, ?_, ?_⟩
  · rw [rpcPostTimed, rpcPostOr_of_ne fits, ran]
    rfl
  · exact fun i again => before i (Nat.lt_of_succ_lt_succ again)
  · intro parsed
    rw [result_eq_ok_iff, tryOnce_eq_ok_iff]
    refine ⟨fun delivers => ⟨retries, few, delivers, before⟩, ?_⟩
    rintro ⟨i, within, delivers, transient⟩
    have lasting := delivers.not_transient
    have reached : retries ≤ i := Nat.le_of_not_lt fun below => lasting (before i below)
    have stops : i ≤ retries := Nat.le_of_not_lt fun later =>
      after (Nat.lt_of_lt_of_le later within) (transient retries later)
    rwa [Nat.le_antisymm reached stops]
  · intro failure failed
    obtain ⟨error, rfl⟩ := exists_of_result failed
    exact ⟨error, rfl, reports_of_result failed⟩

/-- Exchanges with a proxy that is busy at first, and then has no such page. -/
def missingPage : Nat → Exchange Unit
  | 0 => .response 503 (some "busy") (.error "expected value")
  | _ => .response 404 (some " gone\n") (.error "expected value")

theorem call_settles_missingPage :
    (2 : UInt32) ≠ UInt32.ofNat (2 ^ 32 - 1) ∧ ∃ made outcome,
      (rpcPostTimed true ⟨2, 200⟩ ()).run
          (Prog.logged (serveOutcomes fun n => tryOnce toString (missingPage n))) (0, []) =
        (.ok outcome, made,
          schedule () (fun n => tryOnce toString (missingPage n)) 0 (made - 1)) ∧
      CallSettled toString 2 missingPage made outcome :=
  ⟨by decide, call_settles (by decide) true toString () missingPage⟩

end

end SorobanFork
