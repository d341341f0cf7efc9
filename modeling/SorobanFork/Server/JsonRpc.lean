import SorobanFork.Server.Decoding

/-!
# Answering over HTTP (`server/handlers.rs`, `server/types.rs`)

`jsonrpcHandler` answers one `POST /`: it checks the version, dispatches on the
method, and wraps what comes back in an envelope with the id of the request.
Extracting the request from the body of the POST (`axum::Json`), and writing the
reply as JSON, are the work of their crates.

* `dispatch_of_not_mem`: the methods are those fifteen; any other one is answered
  without asking the worker.
* `conforms_dispatch`: a handler sends at most four commands, fails with one of two
  codes, and panics in one method of a build with overflow checks only.
-/

namespace SorobanFork

open Lib

/-- Inbound JSON-RPC 2.0 request; without `params` they are `null`. -/
structure JsonRpcRequest {X : Xdr} (wire : Wire X) : Type where
  jsonrpc : String
  id : wire.Json
  method : String
  params : wire.Json

/-- Outbound JSON-RPC 2.0 response. -/
structure Server.JsonRpcResponse {X : Xdr} (wire : Wire X) : Type where
  jsonrpc : String
  id : wire.Json
  result : Option Response
  error : Option JsonRpcError

/-- What a client gets back for its POST. -/
inductive HttpReply {X : Xdr} (wire : Wire X) : Type
  /-- status 400, with `{ "error": … }` -/
  | badRequest (error : String)
  | json (body : Server.JsonRpcResponse wire)
  /-- the connection closes without a response -/
  | closed

section

variable {X : Xdr} {wire : Wire X}

def Server.JsonRpcResponse.ok (id : wire.Json) (result : Response) :
    Server.JsonRpcResponse wire where
  jsonrpc := "2.0"
  id := id
  result := some result
  error := none

def Server.JsonRpcResponse.err (id : wire.Json) (error : JsonRpcError) :
    Server.JsonRpcResponse wire where
  jsonrpc := "2.0"
  id := id
  result := none
  error := some error

def HttpReply.of (id : wire.Json) : RpcReply → HttpReply wire
  | .result response => .json (.ok id response)
  | .error e => .json (.err id e)
  | .noReply => .closed

/-- The reply to a request whose handler ran to its end or lost its worker. -/
def HttpReply.received (request : JsonRpcRequest wire) :
    Except ActorError (HttpReply wire) → HttpReply wire
  | .ok reply => reply
  | .error gone => .of request.id (.of (.error gone))

def jsonrpcHandler (world : World X) (request : JsonRpcRequest wire) :
    Prog (Command X) Command.Reply (HttpReply wire) :=
  if request.jsonrpc ≠ "2.0" then
    .ret (.badRequest s!"unsupported jsonrpc version: {request.jsonrpc}")
  else
    Prog.bind (dispatch world wire request.method request.params) fun outcome =>
      .ret (.of request.id (.of (.ok outcome)))

theorem jsonrpcHandler_of_version (world : World X) {request : JsonRpcRequest wire}
    (version : request.jsonrpc = "2.0") :
    jsonrpcHandler world request =
      Prog.bind (dispatch world wire request.method request.params) fun outcome =>
        .ret (.of request.id (.of (.ok outcome))) :=
  if_neg (not_not_intro version)

theorem jsonrpcHandler_of_other (world : World X) {request : JsonRpcRequest wire}
    (other : request.jsonrpc ≠ "2.0") :
    jsonrpcHandler world request =
      .ret (.badRequest s!"unsupported jsonrpc version: {request.jsonrpc}") :=
  if_pos other

end

/-! ## Methods -/

/-- The methods `dispatch` knows. -/
def methods : List String :=
  ["getHealth", "getVersionInfo", "getNetwork", "getLatestLedger", "getLedgers",
    "getLedgerEntries", "simulateTransaction", "sendTransaction", "getTransaction",
    "fork_setLedgerEntry", "fork_setStorage", "fork_setCode", "fork_setBalance", "fork_etch",
    "fork_closeLedgers"]

section

variable {X : Xdr} {world : World X} {wire : Wire X} {params : wire.Json}

theorem dispatch_of_not_mem {method : String} (unknown : method ∉ methods) :
    dispatch world wire method params = decoded (.error (.rpc (.methodNotFound method))) := by
  unfold dispatch
  split
  case h_16 => rfl
  all_goals exact absurd (by decide) unknown

/-! ## What a handler may do -/

/-- A failure of a known method: `invalid_params`, `internal_error`, or a panic
where there can be one. -/
def HandlerError.Standard (mayPanic : Prop) : HandlerError → Prop
  | .rpc e => e.code = -32602 ∨ e.code = -32603
  | .panic _ => mayPanic

/-- The handler sends at most `n` commands, and its failures are standard. -/
def Conforms (mayPanic : Prop) (n : Nat) (handler : Handler X Response) : Prop :=
  Prog.AtMost handler n ∧
    Prog.Meets (fun _ => True) (fun _ _ => True)
      (fun outcome => ∀ e, outcome = .error e → e.Standard mayPanic) handler

variable {mayPanic : Prop} {n : Nat}

theorem conforms_pure (response : Response) :
    Conforms mayPanic n (pure response : Handler X Response) :=
  ⟨trivial, nofun⟩

theorem conforms_error {e : HandlerError} (standard : e.Standard mayPanic) :
    Conforms mayPanic n (decoded (.error e) : Handler X Response) := by
  refine ⟨trivial, fun e' failed => ?_⟩
  cases failed
  exact standard

theorem conforms_send {cmd : Command X} {next : cmd.Reply → Handler X Response}
    (rest : ∀ reply, Conforms mayPanic n (next reply)) :
    Conforms mayPanic (n + 1) (send cmd >>= next) :=
  ⟨fun reply => (rest reply).1, trivial, fun reply _ => (rest reply).2⟩

theorem conforms_decoded {α : Type} {value : Except HandlerError α}
    {next : α → Handler X Response} (standard : ∀ e, value = .error e → e.Standard mayPanic)
    (rest : ∀ a, Conforms mayPanic n (next a)) : Conforms mayPanic n (decoded value >>= next) := by
  cases value with
  | error e =>
      rw [decoded_error_bind]
      exact conforms_error (standard e rfl)
  | ok a =>
      rw [decoded_ok_bind]
      exact rest a

theorem conforms_params {α : Type} {value : Except HandlerError α}
    {next : α → Handler X Response} (invalid : InvalidOnly value)
    (rest : ∀ a, Conforms mayPanic n (next a)) : Conforms mayPanic n (decoded value >>= next) := by
  refine conforms_decoded (fun e failed => ?_) rest
  obtain ⟨detail, rfl⟩ := invalid e failed
  exact .inl rfl

/-- A write, and then a look at the ledger. -/
theorem conforms_write {write : EntryWrite} {response : LatestLedgerReply → Response} :
    Conforms mayPanic (n + 2) (do
      send write.command
      let latest ← send .getLatestLedger
      return response latest : Handler X Response) :=
  conforms_send fun _ => conforms_send fun _ => conforms_pure _

theorem standard_rebalance {request : BalanceRequest} {existing : Option LedgerEntry}
    {latestLedger : UInt32} {e : HandlerError}
    (failed : rebalance wire request existing latestLedger = .error e) : e.Standard mayPanic := by
  unfold rebalance at failed
  split at failed
  · split at failed
    · cases failed
    · cases failed
      exact .inr rfl
  · cases failed
  · split at failed
    · cases failed
    · cases failed
      exact .inr rfl
  · cases failed

theorem standard_preservedStorage {existing : Option LedgerEntry} {e : HandlerError}
    (failed : preservedStorage wire existing = .error e) : e.Standard mayPanic := by
  unfold preservedStorage at failed
  split at failed
  · cases failed
  split at failed
  · split at failed
    · cases failed
    · cases failed
      exact .inr rfl
  · cases failed
    exact .inr rfl

theorem conforms_setClassicBalance (request : BalanceRequest) :
    Conforms mayPanic (n + 2) (setClassicBalance wire request : Handler X Response) :=
  conforms_send fun _ => conforms_decoded (fun _ => standard_rebalance) fun _ =>
    conforms_send fun _ => conforms_pure _

theorem conforms_handleSetTokenBalance (request : TokenBalanceRequest) :
    Conforms (world.overflowChecks = true) (n + 3)
      (handleSetTokenBalance world wire request : Handler X Response) := by
  refine conforms_send fun sim => ?_
  apply conforms_params (InvalidOnly.tokenBalance wire _)
  intro current
  apply conforms_decoded
  · intro e failed
    unfold subI128 at failed
    split at failed
    case isTrue overflows =>
      cases failed
      exact (Bool.and_eq_true_iff.mp overflows).1
    case isFalse => cases failed
  intro delta
  split
  · exact conforms_pure _
  apply conforms_params (InvalidOnly.balanceChange delta)
  intro change
  refine conforms_send fun sent => ?_
  split
  · exact conforms_error (.inl rfl)
  · exact conforms_send fun _ => conforms_pure _

theorem conforms_etch (request : EtchRequest) :
    Conforms mayPanic (n + 4) (etch wire request : Handler X Response) :=
  conforms_send fun _ => conforms_send fun _ =>
    conforms_decoded (fun _ => standard_preservedStorage) fun _ => conforms_write

theorem Conforms.mono {mayPanic' : Prop} {m : Nat} {handler : Handler X Response}
    (conforms : Conforms mayPanic n handler) (le : n ≤ m) (weaker : mayPanic → mayPanic') :
    Conforms mayPanic' m handler := by
  obtain ⟨few, meets⟩ := conforms
  refine ⟨Prog.AtMost.mono few le, ?_⟩
  clear few
  induction handler with
  | ret outcome =>
      intro e failed
      have standard := meets e failed
      cases e with
      | rpc error => exact standard
      | panic message => exact weaker standard
  | ask cmd next ih => exact ⟨trivial, fun reply _ => ih reply (meets.2 reply trivial)⟩

/-- **Every handler conforms.** -/
theorem conforms_dispatch {method : String} (known : method ∈ methods) :
    Conforms (method = "fork_setBalance" ∧ world.overflowChecks = true) 4
      (dispatch world wire method params) := by
  unfold dispatch
  split
  -- `getHealth` to `getLatestLedger`
  · exact conforms_send fun _ => conforms_pure _
  · exact conforms_send fun _ => conforms_pure _
  · exact conforms_send fun _ => conforms_pure _
  · exact conforms_send fun _ => conforms_pure _
  -- `getLedgers` to `getTransaction`
  · exact conforms_params (.decodeGetLedgers wire params) fun _ =>
      conforms_send fun _ => conforms_pure _
  · exact conforms_params (.decodeGetLedgerEntries wire params) fun _ =>
      conforms_send fun _ => conforms_pure _
  · exact conforms_params (.decodeSimulateTransaction wire params) fun _ =>
      conforms_send fun _ => conforms_pure _
  · exact conforms_params (.decodeSendTransaction wire params) fun _ =>
      conforms_send fun _ => conforms_send fun _ => conforms_send fun _ => conforms_pure _
  · exact conforms_params (.decodeGetTransaction wire params) fun _ =>
      conforms_send fun _ => conforms_send fun _ => conforms_pure _
  -- the direct writes
  · exact conforms_params (.decodeSetLedgerEntry wire params) fun _ => conforms_write
  · exact conforms_params (.decodeSetStorage wire params) fun _ => conforms_write
  · exact conforms_params (.decodeSetCode world wire params) fun _ => conforms_write
  -- `fork_setBalance`
  · apply conforms_params (.decodeSetBalance wire params)
    intro request
    cases request with
    | inl request => exact conforms_setClassicBalance request
    | inr request =>
        exact (conforms_handleSetTokenBalance (n := 1) request).mono le_rfl fun checks =>
          ⟨rfl, checks⟩
  -- `fork_etch` and `fork_closeLedgers`
  · exact conforms_params (.decodeEtch world wire params) fun request => conforms_etch request
  · exact conforms_params (.decodeCloseLedgers wire params) fun _ =>
      conforms_send fun _ => conforms_pure _
  case h_16 =>
    simp only [methods, List.mem_cons, List.not_mem_nil, or_false] at known
    tauto

end

end SorobanFork
