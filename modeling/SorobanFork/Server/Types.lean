import SorobanFork.Server.Actor

/-!
# Requests and responses (`server/types.rs`)

The JSON-RPC envelope, the parameters of each method and the body of each
response.  Parsing JSON text into parameters is the work of `serde`, decoding
base64 and strkeys that of their crates, and printing a value for an error
message that of its `Debug` instance: `Wire` takes them as parameters.

Responses stay typed; turning one into JSON cannot fail.
-/

namespace SorobanFork

/-- A JSON-RPC error object (its `data` is never set). -/
structure JsonRpcError : Type where
  code : Int
  message : String
deriving DecidableEq

namespace JsonRpcError

def methodNotFound (method : String) : JsonRpcError := ⟨-32601, s!"method not found: {method}"⟩

def invalidParams (detail : String) : JsonRpcError := ⟨-32602, detail⟩

def internalError (detail : String) : JsonRpcError := ⟨-32603, detail⟩

end JsonRpcError

/-! ## Parameters -/

/-- `pagination` is accepted and never inspected. -/
structure GetLedgersParams : Type where
  startLedger : Option UInt32
deriving DecidableEq

structure GetLedgerEntriesParams : Type where
  keys : List String
deriving DecidableEq

/-- `resource_config` is accepted and never inspected. -/
structure SimulateTransactionParams : Type where
  transaction : String
deriving DecidableEq

structure SendTransactionParams : Type where
  transaction : String
deriving DecidableEq

structure GetTransactionParams : Type where
  hash : String
deriving DecidableEq

structure SetLedgerEntryParams : Type where
  key : String
  entry : String
  liveUntilLedgerSeq : Option UInt32
deriving DecidableEq

structure CloseLedgersParams : Type where
  ledgers : Option UInt32
  timestampAdvanceSeconds : Option UInt64
deriving DecidableEq

inductive StorageDurability : Type
  | persistent
  | temporary
deriving DecidableEq

structure SetStorageParams : Type where
  contract : String
  key : String
  value : String
  durability : Option StorageDurability
  liveUntilLedgerSeq : Option UInt32
deriving DecidableEq

structure SetCodeParams : Type where
  wasm : String
  liveUntilLedgerSeq : Option UInt32
deriving DecidableEq

/-- The `asset` field: `"native"`, `{ code, issuer }` or `{ contract }`. -/
inductive AssetWire : Type
  | native
  | credit (code issuer : String)
  | contract (contract : String)
deriving DecidableEq

structure SetBalanceParams : Type where
  account : String
  amount : String
  asset : Option AssetWire
deriving DecidableEq

structure EtchParams : Type where
  contract : String
  wasm : String
  liveUntilLedgerSeq : Option UInt32
deriving DecidableEq

/-! ## Responses -/

structure HealthResponse : Type where
  status : String
  latestLedger : UInt32
  oldestLedger : UInt32
  ledgerRetentionWindow : UInt32
deriving DecidableEq

structure VersionInfoResponse : Type where
  version : String
  commitHash : String
  buildTimestamp : String
  captiveCoreVersion : String
  protocolVersion : UInt32
deriving DecidableEq

structure NetworkResponse : Type where
  passphrase : String
  protocolVersion : UInt32
  networkId : String
  friendbotUrl : Option String
deriving DecidableEq

structure LatestLedgerResponse : Type where
  id : String
  sequence : UInt32
  protocolVersion : UInt32
deriving DecidableEq

/-- `types::LedgerInfo`, one ledger of a `getLedgers` page. -/
structure LedgerPageItem : Type where
  hash : String
  sequence : UInt32
  ledgerCloseTime : String
deriving DecidableEq

structure GetLedgersResponse : Type where
  ledgers : List LedgerPageItem
  latestLedger : UInt32
  latestLedgerCloseTime : String
  oldestLedger : UInt32
  oldestLedgerCloseTime : String
  cursor : String
deriving DecidableEq

structure LedgerEntryItem : Type where
  key : String
  xdr : String
  lastModifiedLedgerSeq : UInt32
  liveUntilLedgerSeq : Option UInt32
deriving DecidableEq

structure GetLedgerEntriesResponse : Type where
  entries : List LedgerEntryItem
  latestLedger : UInt32
deriving DecidableEq

structure SimulateHostFunctionResult : Type where
  auth : List String
  xdr : String
deriving DecidableEq

structure SimulationCost : Type where
  cpuInsns : String
  memBytes : String
deriving DecidableEq

structure SimulateTransactionResponse : Type where
  transactionData : Option String
  minResourceFee : Option String
  events : Option (List String)
  results : Option (List SimulateHostFunctionResult)
  cost : Option SimulationCost
  latestLedger : UInt32
  error : Option String
deriving DecidableEq

/-- The `status` of a `sendTransaction` response: `"SUCCESS"` or `"ERROR"`. -/
inductive SendStatus : Type
  | success
  | error
deriving DecidableEq

structure SendTransactionResponse : Type where
  status : SendStatus
  hash : String
  latestLedger : UInt32
  latestLedgerCloseTime : String
  envelopeXdr : String
  errorMessage : Option String
  appliedChanges : UInt32
deriving DecidableEq

/-- The `status` of a `getTransaction` response: `"SUCCESS"`, `"FAILED"` or
`"NOT_FOUND"`. -/
inductive TransactionStatus : Type
  | success
  | failed
  | notFound
deriving DecidableEq

structure GetTransactionResponse : Type where
  status : TransactionStatus
  latestLedger : UInt32
  ledger : Option UInt32 := none
  createdAt : Option String := none
  envelopeXdr : Option String := none
  returnValueXdr : Option String := none
  resultXdr : Option String := none
  resultMetaXdr : Option String := none
  errorMessage : Option String := none
  appliedChanges : Option UInt32 := none
deriving DecidableEq

structure SetLedgerEntryResponse : Type where
  ok : Bool
  latestLedger : UInt32
deriving DecidableEq

structure CloseLedgersResponse : Type where
  newSequence : UInt32
  newCloseTime : String
deriving DecidableEq

structure SetCodeResponse : Type where
  ok : Bool
  hash : String
  latestLedger : UInt32
deriving DecidableEq

structure SetBalanceResponse : Type where
  ok : Bool
  latestLedger : UInt32
deriving DecidableEq

/-- The body of a successful response. -/
inductive Response : Type
  | health (body : HealthResponse)
  | versionInfo (body : VersionInfoResponse)
  | network (body : NetworkResponse)
  | latestLedger (body : LatestLedgerResponse)
  | ledgers (body : GetLedgersResponse)
  | ledgerEntries (body : GetLedgerEntriesResponse)
  | simulateTransaction (body : SimulateTransactionResponse)
  | sendTransaction (body : SendTransactionResponse)
  | getTransaction (body : GetTransactionResponse)
  | setLedgerEntry (body : SetLedgerEntryResponse)
  | closeLedgers (body : CloseLedgersResponse)
  | setCode (body : SetCodeResponse)
  | setBalance (body : SetBalanceResponse)
deriving DecidableEq

/-! ## Result XDR -/

/-- The parts of `SorobanTransactionMeta` that `getTransaction` fills. -/
structure SorobanTransactionMeta : Type where
  events : List ContractEvent
  returnValue : ScVal
  diagnosticEvents : List DiagnosticEvent
deriving DecidableEq

/-- `TransactionMeta::V3` with no ledger changes and no operations. -/
structure TransactionMetaV3 : Type where
  sorobanMeta : Option SorobanTransactionMeta
deriving DecidableEq

inductive InvokeHostFunctionResult : Type
  | success (hash : Hash)
  | trapped
deriving DecidableEq

inductive TransactionResultResult : Type
  | txSuccess (ops : List InvokeHostFunctionResult)
  | txFailed (ops : List InvokeHostFunctionResult)
deriving DecidableEq

structure TransactionResult : Type where
  feeCharged : Int64
  result : TransactionResultResult
deriving DecidableEq

structure SorobanTransactionData : Type where
  resources : SorobanResources
  resourceFee : Int64
deriving DecidableEq

/-- Text and JSON codecs, and the printers of error messages. -/
structure Wire (X : Xdr) : Type 1 where
  /-- `serde_json::Value`. -/
  Json : Type
  isNull : Json → Bool
  getLedgersParams : Json → Except String GetLedgersParams
  getLedgerEntriesParams : Json → Except String GetLedgerEntriesParams
  simulateTransactionParams : Json → Except String SimulateTransactionParams
  sendTransactionParams : Json → Except String SendTransactionParams
  getTransactionParams : Json → Except String GetTransactionParams
  setLedgerEntryParams : Json → Except String SetLedgerEntryParams
  setStorageParams : Json → Except String SetStorageParams
  setCodeParams : Json → Except String SetCodeParams
  setBalanceParams : Json → Except String SetBalanceParams
  etchParams : Json → Except String EtchParams
  closeLedgersParams : Json → Except String CloseLedgersParams
  base64Decode : String → Except String X.Buf
  base64Encode : X.Buf → String
  /-- `stellar_strkey::Contract::from_string` ("C..."). -/
  contractFromString : String → Except String Hash
  /-- `stellar_strkey::ed25519::PublicKey::from_string` ("G..."). -/
  publicKeyFromString : String → Except String Uint256
  transactionDataToXdr : SorobanTransactionData → X.Buf
  authEntryToXdr : SorobanAuthorizationEntry → X.Buf
  transactionMetaToXdr : TransactionMetaV3 → X.Buf
  transactionResultToXdr : TransactionResult → X.Buf
  debugString : String → String
  debugScVal : ScVal → String
  debugSimulationResult : Except String ScVal → String
  debugEntryData : LedgerEntryData → String
  debugOperationBody : OperationBody → String

end SorobanFork
