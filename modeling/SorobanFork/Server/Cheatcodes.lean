import SorobanFork.Server.Handlers

/-!
# Balance, code and clock cheatcodes (`server/handlers.rs`)

`fork_setBalance`, `fork_etch` and `fork_closeLedgers`, and the dispatch of all
methods.  The first two read an entry in one command and write it back in a
later one; the pure part in between is a definition of its own
(`rebalance`, `preservedStorage`), so that what they write can be stated without
the handler around it.
-/

namespace SorobanFork

open Lib

section

variable {X : Xdr} (world : World X) (wire : Wire X)

/-! ## `fork_setBalance` on Classic assets -/

/-- A Classic asset; a credit asset comes as the trustline asset it is held in. -/
inductive ClassicAsset : Type
  | native
  | credit (asset : TrustLineAsset)
deriving DecidableEq

/-- A decoded `fork_setBalance` request on a Classic asset. -/
structure BalanceRequest : Type where
  accountId : AccountId
  asset : ClassicAsset
  amount : Int64
deriving DecidableEq

/-- A decoded `fork_setBalance` request on a contract token. -/
structure TokenBalanceRequest : Type where
  toAccount : AccountId
  target : I128
  contract : Hash
deriving DecidableEq

/-- The bytes of an asset code, padded with zeros. -/
def assetCode (n : Nat) (code : Bytes) (short : code.length ≤ n) : List.Vector UInt8 n :=
  ⟨code ++ List.replicate (n - code.length) 0, by
    rw [List.length_append, List.length_replicate]
    omega⟩

/-- The trustline asset of a code and an issuer: the length of the code decides
between the two kinds. -/
def creditAsset (code : Bytes) (issuer : AccountId) : Except HandlerError TrustLineAsset :=
  if code.length = 0 then .error (invalidParams "asset.code: must be 1-12 chars, got empty")
  else if short : code.length ≤ 4 then .ok (.creditAlphanum4 (assetCode 4 code short) issuer)
  else if long : code.length ≤ 12 then .ok (.creditAlphanum12 (assetCode 12 code long) issuer)
  else .error (invalidParams s!"asset.code: must be 1-12 chars, got {code.length}")

def decodeClassicAsset (asset : AssetWire) : Except HandlerError ClassicAsset :=
  match asset with
  | .credit code issuer => do
    let issuer ← decodePublicKey wire "asset.issuer" issuer
    let asset ← creditAsset (utf8 code) ⟨issuer⟩
    return .credit asset
  | _ => .ok .native

/-- The amount of a Classic asset: an `i64` of at least zero. -/
def decodeAmount (amount : String) : Except HandlerError Int64 :=
  match parseI64 amount with
  | .error e =>
    .error (invalidParams
      s!"amount: not a valid i64 decimal string ({e}): {wire.debugString amount}")
  | .ok n => if n < 0 then .error (invalidParams s!"amount: must be >= 0, got {n}") else .ok n

/-- The amount of a token: an `i128` of at least zero. -/
def decodeTokenAmount (amount : String) : Except HandlerError I128 :=
  match parseI128 amount with
  | .error e =>
    .error (invalidParams
      s!"amount: not a valid i128 decimal string ({e}): {wire.debugString amount}")
  | .ok n =>
    if n.toInt < 0 then .error (invalidParams s!"amount: must be >= 0, got {n.toInt}") else .ok n

/-- Decode a `fork_setBalance` request; a contract asset takes the token path. -/
def decodeSetBalance (params : wire.Json) :
    Except HandlerError (BalanceRequest ⊕ TokenBalanceRequest) := do
  let parsed ← parseParams wire "fork_setBalance" wire.setBalanceParams params
  let account ← decodePublicKey wire "account" parsed.account
  match parsed.asset.getD .native with
  | .contract contract =>
    let target ← decodeTokenAmount wire parsed.amount
    let contract ← decodeContract wire "asset.contract" contract
    return .inr ⟨⟨account⟩, target, contract⟩
  | asset =>
    let amount ← decodeAmount wire parsed.amount
    let asset ← decodeClassicAsset wire asset
    return .inl ⟨⟨account⟩, asset, amount⟩

/-- The key that holds the balance. -/
def BalanceRequest.key (request : BalanceRequest) : LedgerKey :=
  match request.asset with
  | .native => .account request.accountId
  | .credit asset => .trustline request.accountId asset

/-- The entry with its balance replaced: the existing one, or a fresh one. -/
def rebalance (request : BalanceRequest) (existing : Option LedgerEntry)
    (latestLedger : UInt32) : Except HandlerError LedgerEntry :=
  match request.asset, existing with
  | .native, some entry =>
    match entry.data with
    | .account account =>
      .ok { entry with
        data := .account { account with balance := request.amount }
        lastModifiedLedgerSeq := latestLedger }
    | other =>
      .error (internalError
        ("expected Account entry under Account key, got " ++ wire.debugEntryData other ++
          " (cache corruption or LedgerKey/LedgerEntry shape mismatch)"))
  | .native, none =>
    .ok
      { lastModifiedLedgerSeq := latestLedger
        data := .account (.fresh request.accountId request.amount (initialSeq latestLedger))
        ext := .v0 }
  | .credit _, some entry =>
    match entry.data with
    | .trustline tl =>
      .ok { entry with
        data := .trustline { tl with balance := request.amount }
        lastModifiedLedgerSeq := latestLedger }
    | other =>
      .error (internalError
        ("expected Trustline entry under Trustline key, got " ++ wire.debugEntryData other ++
          " (cache corruption or LedgerKey/LedgerEntry shape mismatch)"))
  | .credit asset, none =>
    .ok
      { lastModifiedLedgerSeq := latestLedger
        data := .trustline (.fresh request.accountId asset request.amount)
        ext := .v0 }

/-- The entry a one-key `getLedgerEntries` found. -/
def LedgerEntriesReply.single (reply : LedgerEntriesReply) : Option LedgerEntry :=
  reply.entries.head?.join.map (·.2.1)

/-- The Classic path of `fork_setBalance`: read, replace the balance, write. -/
def setClassicBalance (request : BalanceRequest) : Handler X Response := do
  let existing ← send (.getLedgerEntries [request.key])
  let entry ← decoded (rebalance wire request existing.single existing.latestLedger)
  send (.setLedgerEntry request.key entry none)
  return .setBalance { ok := true, latestLedger := existing.latestLedger }

/-! ## `fork_setBalance` on contract tokens -/

/-- `AccountId` of the all-zero key, the source of synthetic transactions. -/
def zeroSource : AccountId := ⟨zeroBytes32⟩

/-- An invocation of a token function. -/
def tokenCall (contract : Hash) (functionName : String) (args : List ScVal) : HostFunction :=
  .invokeContract
    { contractAddress := .contract contract
      functionName := utf8 functionName
      args := args }

/-- The balance a simulation returned. -/
def tokenBalance (result : Except String ScVal) : Except HandlerError I128 :=
  let nonI128 : Except HandlerError I128 :=
    .error (invalidParams
      ("asset.contract: token's balance() returned a non-i128 ScVal — " ++
        "not a SEP-41-shaped token. Got: " ++ wire.debugSimulationResult result))
  match result with
  | .ok (.i128 parts) => .ok (joinI128 parts)
  | .ok (.u64 _) => nonI128
  | .ok (.u32 _) => nonI128
  | .ok (.i32 _) => nonI128
  | .ok (.i64 _) => nonI128
  | .ok other =>
    .error (invalidParams
      ("asset.contract: token's balance() returned unexpected ScVal type: " ++
        wire.debugScVal other))
  | .error e =>
    .error (invalidParams
      (s!"asset.contract: token's balance() simulation failed: {e}. " ++
        "Is the contract a SEP-41-shaped token? Does the account exist?"))

/-- `a - b`: an overflow panics or wraps, depending on the build. -/
def subI128 (a b : I128) : Except HandlerError I128 :=
  if world.overflowChecks && a.ssubOverflow b then
    .error (.panic "attempt to subtract with overflow")
  else .ok (a - b)

/-- The call that moves a balance by `delta`: a mint or a burn. -/
def balanceChange (delta : I128) : Except HandlerError (String × I128) :=
  if 0 < delta.toInt then .ok ("mint", delta)
  else
    match checkedAbs delta with
    | some absDelta => .ok ("burn", absDelta)
    | none => .error (invalidParams "amount: i128::MIN delta unreachable")

/-- The envelope around a synthetic call, from the all-zero account. -/
def syntheticEnvelope (call : HostFunction) : TransactionEnvelope :=
  .tx
    { tx :=
        { sourceAccount := .ed25519 zeroBytes32
          fee := 0
          seqNum := 0
          cond := []
          memo := []
          operations := [⟨none, .invokeHostFunction ⟨call, []⟩⟩]
          ext := .v0 }
      signatures := [] }

/-- The call of `fnName` on the account the request is about. -/
def TokenBalanceRequest.call (request : TokenBalanceRequest) (fnName : String)
    (amount : Option I128) : HostFunction :=
  tokenCall request.contract fnName
    (.address (.account request.toAccount) :: amount.toList.map i128ToScval)

/-- The token path of `fork_setBalance`: simulate `balance`, then mint or burn
the difference. -/
def handleSetTokenBalance (request : TokenBalanceRequest) : Handler X Response := do
  let sim ← send (.simulateTransaction (request.call "balance" none) zeroSource 0)
  let current ← decoded (tokenBalance wire sim.result)
  let delta ← decoded (subI128 world request.target current)
  if delta = 0 then
    return .setBalance { ok := true, latestLedger := sim.latestLedger }
  else
    let (fnName, amount) ← decoded (balanceChange delta)
    let call := request.call fnName (some amount)
    let sent ← send (.sendTransaction (X.envelope.toXdr (syntheticEnvelope call)) call zeroSource)
    match sent.receipt.result with
    | .error message =>
      decoded (.error (invalidParams
        (s!"token {fnName}({delta.toInt}) failed: {message}. Is the contract SEP-41-shaped " ++
          "with public mint/burn? Trust-mode auth bypasses admin checks but the " ++
          "function must still exist and accept (Address, i128).")))
    | .ok _ =>
      let latest ← send .getLatestLedger
      return .setBalance { ok := true, latestLedger := latest.sequence }

def handleForkSetBalance (params : wire.Json) : Handler X Response := do
  match ← decoded (decodeSetBalance wire params) with
  | .inl request => setClassicBalance wire request
  | .inr request => handleSetTokenBalance world wire request

/-! ## `fork_etch` -/

/-- A decoded `fork_etch` request. -/
structure EtchRequest : Type where
  contract : ScAddress
  hash : Hash
  code : Bytes
  liveUntil : Option UInt32
deriving DecidableEq

def decodeEtch (params : wire.Json) : Except HandlerError EtchRequest := do
  let parsed ← parseParams wire "fork_etch" wire.etchParams params
  let contract ← decodeContract wire "contract" parsed.contract
  let wasm ← decodeBase64 wire "wasm" parsed.wasm
  let code ← wasmBytes wasm
  return ⟨.contract contract, world.sha256 wasm, code, parsed.liveUntilLedgerSeq⟩

namespace EtchRequest

/-- The key of the contract's instance entry. -/
def instanceKey (request : EtchRequest) : LedgerKey :=
  .contractData request.contract .ledgerKeyContractInstance .persistent

/-- The new code entry. -/
def codeWrite (request : EtchRequest) : EntryWrite :=
  contractCodeWrite request.hash request.code request.liveUntil

/-- The instance entry that runs the new code on the given storage. -/
def instanceWrite (request : EtchRequest) (storage : Option (List (ScVal × ScVal))) : EntryWrite :=
  contractDataWrite request.contract .ledgerKeyContractInstance .persistent
    (.contractInstance (.wasm request.hash) storage) request.liveUntil

end EtchRequest

/-- The storage of the existing instance; none if there is no entry. -/
def preservedStorage (existing : Option LedgerEntry) :
    Except HandlerError (Option (List (ScVal × ScVal))) :=
  match existing with
  | none => .ok none
  | some entry =>
    match entry.data with
    | .contractData cd =>
      match cd.val with
      | .contractInstance _ storage => .ok storage
      | other =>
        .error (internalError
          ("instance entry's val is not ContractInstance: " ++ wire.debugScVal other ++
            " (host invariant violation; refusing to overwrite)"))
    | other =>
      .error (internalError
        ("instance LedgerKey resolved to non-ContractData entry: " ++
          wire.debugEntryData other))

/-- Install the code, read the instance, and point it at the code. -/
def etch (request : EtchRequest) : Handler X Response := do
  -- the code is installed before the instance entry has been looked at
  send request.codeWrite.command
  let existing ← send (.getLedgerEntries [request.instanceKey])
  let storage ← decoded (preservedStorage wire existing.single)
  send (request.instanceWrite storage).command
  let latest ← send .getLatestLedger
  return .setCode { ok := true, hash := hexLower request.hash, latestLedger := latest.sequence }

def handleForkEtch (params : wire.Json) : Handler X Response := do
  let request ← decoded (decodeEtch world wire params)
  etch wire request

/-! ## `fork_closeLedgers` -/

/-- The ledgers and seconds to advance: one ledger, and 5 seconds for each. -/
def decodeCloseLedgers (params : wire.Json) : Except HandlerError (UInt32 × UInt64) := do
  let parsed ←
    if wire.isNull params then .ok ⟨none, none⟩
    else parseParams wire "fork_closeLedgers" wire.closeLedgersParams params
  let ledgers := parsed.ledgers.getD 1
  return (ledgers, parsed.timestampAdvanceSeconds.getD (ledgers.toUInt64 * 5))

def handleForkCloseLedgers (params : wire.Json) : Handler X Response := do
  let (ledgers, seconds) ← decoded (decodeCloseLedgers wire params)
  let reply ← send (.closeLedgers ledgers seconds)
  return .closeLedgers
    { newSequence := reply.newSequence
      newCloseTime := toString reply.newCloseTime }

/-! ## Dispatch -/

def dispatch (method : String) (params : wire.Json) : Handler X Response :=
  match method with
  | "getHealth" => handleGetHealth
  | "getVersionInfo" => handleGetVersionInfo
  | "getNetwork" => handleGetNetwork
  | "getLatestLedger" => handleGetLatestLedger
  | "getLedgers" => handleGetLedgers wire params
  | "getLedgerEntries" => handleGetLedgerEntries wire params
  | "simulateTransaction" => handleSimulateTransaction wire params
  | "sendTransaction" => handleSendTransaction wire params
  | "getTransaction" => handleGetTransaction wire params
  | "fork_setLedgerEntry" => handleForkSetLedgerEntry wire params
  | "fork_setStorage" => handleForkSetStorage wire params
  | "fork_setCode" => handleForkSetCode world wire params
  | "fork_setBalance" => handleForkSetBalance world wire params
  | "fork_etch" => handleForkEtch world wire params
  | "fork_closeLedgers" => handleForkCloseLedgers wire params
  | unknown => decoded (.error (.rpc (.methodNotFound unknown)))

/-- What a client gets for a request; a panicking handler sends nothing. -/
inductive RpcReply : Type
  | result (response : Response)
  | error (error : JsonRpcError)
  | noReply
deriving DecidableEq

/-- The reply of a handler that ran to its end or lost its worker. -/
def RpcReply.of : Except ActorError (Except HandlerError Response) → RpcReply
  | .ok (.ok response) => .result response
  | .ok (.error (.rpc e)) => .error e
  | .ok (.error (.panic _)) => .noReply
  | .error gone => .error (.internalError gone.toString)

/-- A request handled alone: its commands run without others in between. -/
def serve (method : String) (params : wire.Json) (server : Server X) : RpcReply × Server X :=
  let (outcome, server) := Prog.run (Server.step world) (dispatch world wire method params) server
  (.of outcome, server)

end

/-! ## The handler of a method -/

section Dispatch

variable {X : Xdr} {world : World X} {wire : Wire X} {params : wire.Json}

theorem dispatch_sendTransaction :
    dispatch world wire "sendTransaction" params = handleSendTransaction wire params := rfl

theorem dispatch_getTransaction :
    dispatch world wire "getTransaction" params = handleGetTransaction wire params := rfl

theorem dispatch_fork_setCode :
    dispatch world wire "fork_setCode" params = handleForkSetCode world wire params := rfl

theorem dispatch_fork_setBalance :
    dispatch world wire "fork_setBalance" params = handleForkSetBalance world wire params := rfl

theorem dispatch_fork_etch :
    dispatch world wire "fork_etch" params = handleForkEtch world wire params := rfl

theorem dispatch_fork_closeLedgers :
    dispatch world wire "fork_closeLedgers" params = handleForkCloseLedgers wire params := rfl

/-- A `fork_etch` that decodes. -/
theorem dispatch_etch_of_decoded {request : EtchRequest}
    (decodes : decodeEtch world wire params = .ok request) :
    dispatch world wire "fork_etch" params = etch wire request := by
  rw [dispatch_fork_etch, handleForkEtch, decodes, decoded_ok_bind]

end Dispatch

end SorobanFork
