import SorobanFork.Server.Cheatcodes

/-!
# A sample world

A concrete instance of the parameters of the development: buffers that are
tagged values, an upstream with nothing in it, and a host that runs one small
token contract with a balance for each address and a function, `init`, that
succeeds only once.  The results about the fork are applied to it where a
concrete run is called for; it also shows that their assumptions can be met.
-/

namespace SorobanFork.Sample

open Lib

/-- A buffer is the value it was serialised from. -/
inductive Buf : Type
  | raw (bytes : Bytes)
  | ledgerKey (key : LedgerKey)
  | ledgerEntry (entry : LedgerEntry)
  | ledgerEntryData (data : LedgerEntryData)
  | scVal (val : ScVal)
  | envelope (envelope : TransactionEnvelope)
  | signaturePayload (payload : TransactionSignaturePayload)
  | diagnosticEvent (event : DiagnosticEvent)
deriving DecidableEq

def xdr : Xdr where
  Buf := Buf
  len
    | .raw bytes => bytes.length
    | _ => 4
  bytes
    | .raw bytes => bytes
    | _ => [0, 0, 0, 0]
  ledgerKey := ⟨.ledgerKey, fun | .ledgerKey key => some key | _ => none, fun _ => "invalid",
    fun _ => rfl⟩
  ledgerEntry := ⟨.ledgerEntry, fun | .ledgerEntry entry => some entry | _ => none,
    fun _ => "invalid", fun _ => rfl⟩
  ledgerEntryData := ⟨.ledgerEntryData, fun | .ledgerEntryData data => some data | _ => none,
    fun _ => "invalid", fun _ => rfl⟩
  scVal := ⟨.scVal, fun | .scVal val => some val | _ => none, fun _ => "invalid", fun _ => rfl⟩
  envelope := ⟨.envelope, fun | .envelope envelope => some envelope | _ => none,
    fun _ => "invalid", fun _ => rfl⟩
  signaturePayload := ⟨.signaturePayload,
    fun | .signaturePayload payload => some payload | _ => none, fun _ => "invalid", fun _ => rfl⟩
  diagnosticEvent := ⟨.diagnosticEvent, fun | .diagnosticEvent event => some event | _ => none,
    fun _ => "invalid", fun _ => rfl⟩

/-- Thirty-two equal bytes. -/
def bytes32 (b : UInt8) : Hash := ⟨List.replicate 32 b, List.length_replicate⟩

def account (b : UInt8) : AccountId := ⟨bytes32 b⟩

/-! ## The token contract -/

def slotKey (contract holder : ScAddress) : LedgerKey :=
  .contractData contract (.address holder) .persistent

def slotEntry (contract holder : ScAddress) (val : ScVal) : LedgerEntry where
  lastModifiedLedgerSeq := 0
  data := .contractData ⟨.v0, contract, .address holder, .persistent, val⟩
  ext := .v0

/-- The balance in a slot: zero if there is none, and an error if the slot does
not hold a non-negative `i128`. -/
def readSlot : Option EntryWithLiveUntil → Option I128
  | none => some 0
  | some (entry, _) =>
    match entry.data with
    | .contractData cd =>
      match cd.val with
      | .i128 parts => if 0 ≤ (joinI128 parts).toInt then some (joinI128 parts) else none
      | _ => none
    | _ => none

def noResources : SorobanResources := emptySorobanResources

/-- An invocation that reports a result and the changes it made. -/
def outcome (result : Except String ScVal) (changes : List (LedgerEntryChange xdr)) :
    Invocation xdr where
  result := .ok ⟨result, noResources, [], changes, []⟩
  diagnosticEvents := []
  memBytes := some 0

def slotChange (contract holder : ScAddress) (val : ScVal) : LedgerEntryChange xdr where
  readOnly := false
  encodedKey := xdr.ledgerKey.encode (slotKey contract holder)
  encodedNewValue := some (xdr.ledgerEntry.encode (slotEntry contract holder val))
  ttlChange := none

/-- Move a balance by `delta`, if the result is again a balance. -/
def moveBalance (contract holder : ScAddress) (delta : Int) (found : Option EntryWithLiveUntil) :
    Invocation xdr :=
  match readSlot found with
  | none => outcome (.error "bad slot") []
  | some balance =>
    if 0 ≤ balance.toInt + delta ∧ balance.toInt + delta < 2 ^ 127 then
      outcome (.ok .void) [slotChange contract holder
        (i128ToScval (BitVec.ofInt 128 (balance.toInt + delta)))]
    else outcome (.error "balance out of range") []

/-- Report a balance. -/
def reportBalance (found : Option EntryWithLiveUntil) : Invocation xdr :=
  match readSlot found with
  | some balance => outcome (.ok (i128ToScval balance)) []
  | none => outcome (.error "bad slot") []

/-- The host: it knows `balance`, `mint`, `burn` and `init`; any other call
succeeds without a change. -/
def invoke (_ : LedgerInfo) (hostFunction : HostFunction) (_ : AccountId) :
    Reader (Invocation xdr) :=
  match hostFunction with
  | .invokeContract call =>
    match call.args with
    | [.address holder] =>
      if call.functionName = utf8 "balance" then
        .ask (slotKey call.contractAddress holder) fun found => .ret (reportBalance found)
      else .ret (outcome (.ok .void) [])
    | [.address holder, .i128 parts] =>
      if call.functionName = utf8 "mint" then
        .ask (slotKey call.contractAddress holder) fun found =>
          .ret (moveBalance call.contractAddress holder (joinI128 parts).toInt found)
      else if call.functionName = utf8 "burn" then
        .ask (slotKey call.contractAddress holder) fun found =>
          .ret (moveBalance call.contractAddress holder (-(joinI128 parts).toInt) found)
      else .ret (outcome (.ok .void) [])
    | [] =>
      if call.functionName = utf8 "init" then
        .ask (slotKey call.contractAddress call.contractAddress) fun
          | none => .ret (outcome (.ok .void)
              [slotChange call.contractAddress call.contractAddress .void])
          | some _ => .ret (outcome (.error "already initialised") [])
      else .ret (outcome (.ok .void) [])
    | _ => .ret (outcome (.ok .void) [])
  | _ => .ret (outcome (.ok .void) [])

/-! ## The world and its server -/

/-- Nothing exists upstream. -/
def upstream : LedgerKey → Option FetchedEntry := fun _ => none

def world : World xdr where
  client _ key := .ok (upstream key)
  invoke := invoke
  computeTransactionResourceFee _ _ := (0, 0)
  sha256
    | .raw bytes => ⟨(bytes ++ List.replicate 32 0).take 32, by simp⟩
    | _ => bytes32 7
  systemTime n := some (UInt64.ofNat n)
  overflowChecks := true

theorem fixed : world.client.Fixed fun key => .ok (upstream key) := fun _ _ => rfl

def ledgerInfo : LedgerInfo where
  protocolVersion := 25
  sequenceNumber := 100
  timestamp := 1000
  networkId := bytes32 9
  baseReserve := 100
  minPersistentEntryTtl := 4096
  minTempEntryTtl := 16
  maxEntryTtl := 6312000

/-- A fork at ledger 100 whose cache holds the given entries. -/
def server (entries : List (LedgerKey × LedgerEntry × Option UInt32)) : Server xdr where
  worker :=
    { env :=
        { ledger := ledgerInfo
          source := (RpcSnapshotSource.new .strict).preload entries
          cachePath := none
          forkLedgerSequence := 100
          forkTimestamp := 1000
          networkId := bytes32 9
          protocolVersion := 25
          passphrase := none
          feeCell := none
          testAccounts := [] }
      receipts := ∅
      clockReads := 0 }
  alive := true

/-- An account with a balance of 10 and the given sequence number. -/
def accountEntry (b : UInt8) (seqNum : Int64) : LedgerKey × LedgerEntry × Option UInt32 :=
  (.account (account b),
    { lastModifiedLedgerSeq := 1, data := .account (.fresh (account b) 10 seqNum), ext := .v0 },
    none)

/-- A call of the contract at `bytes32 1`. -/
def call (functionName : String) (args : List ScVal) : HostFunction :=
  tokenCall (bytes32 1) functionName args

/-- An envelope from account `b` with one operation, which may have a source of its own. -/
def envelope (b : UInt8) (opSource : Option MuxedAccount) (hostFunction : HostFunction) :
    TransactionEnvelope :=
  .tx
    { tx :=
        { sourceAccount := .ed25519 (bytes32 b)
          fee := 100
          seqNum := 1
          cond := []
          memo := []
          operations := [⟨opSource, .invokeHostFunction ⟨hostFunction, []⟩⟩]
          ext := .v0 }
      signatures := [] }

/-! ## The wire -/

/-- JSON parameters that are already parsed. -/
inductive Json : Type
  | null
  | getLedgers (params : GetLedgersParams)
  | getLedgerEntries (params : GetLedgerEntriesParams)
  | simulateTransaction (params : SimulateTransactionParams)
  | sendTransaction (params : SendTransactionParams)
  | getTransaction (params : GetTransactionParams)
  | setLedgerEntry (params : SetLedgerEntryParams)
  | setStorage (params : SetStorageParams)
  | setCode (params : SetCodeParams)
  | setBalance (params : SetBalanceParams)
  | etch (params : EtchParams)
  | closeLedgers (params : CloseLedgersParams)

/-- The text that stands for a buffer. -/
def textOf (texts : List (String × Buf)) (buf : Buf) : String :=
  ((texts.find? fun entry => entry.2 = buf).map (·.1)).getD ""

/-- The base64 texts in use stand for the given buffers; `"C1"` and `"G1"` to
`"G3"` are the strkeys of the contract and of three accounts. -/
def wire (texts : List (String × Buf)) : Wire xdr where
  Json := Json
  isNull | .null => true | _ => false
  getLedgersParams | .getLedgers params => .ok params | _ => .error "invalid type"
  getLedgerEntriesParams | .getLedgerEntries params => .ok params | _ => .error "invalid type"
  simulateTransactionParams
    | .simulateTransaction params => .ok params | _ => .error "invalid type"
  sendTransactionParams | .sendTransaction params => .ok params | _ => .error "invalid type"
  getTransactionParams | .getTransaction params => .ok params | _ => .error "invalid type"
  setLedgerEntryParams | .setLedgerEntry params => .ok params | _ => .error "invalid type"
  setStorageParams | .setStorage params => .ok params | _ => .error "invalid type"
  setCodeParams | .setCode params => .ok params | _ => .error "invalid type"
  setBalanceParams | .setBalance params => .ok params | _ => .error "invalid type"
  etchParams | .etch params => .ok params | _ => .error "invalid type"
  closeLedgersParams | .closeLedgers params => .ok params | _ => .error "invalid type"
  base64Decode text :=
    match texts.lookup text with
    | some buf => .ok buf
    | none => .error "Invalid symbol"
  base64Encode := textOf texts
  contractFromString
    | "C1" => .ok (bytes32 1)
    | _ => .error "invalid"
  publicKeyFromString
    | "G1" => .ok (bytes32 1)
    | "G2" => .ok (bytes32 2)
    | "G3" => .ok (bytes32 3)
    | _ => .error "invalid"
  transactionDataToXdr _ := .raw []
  authEntryToXdr entry := .raw entry.xdr
  transactionMetaToXdr _ := .raw []
  transactionResultToXdr _ := .raw []
  debugString text := text
  debugScVal _ := "ScVal"
  debugSimulationResult _ := "Ok(ScVal)"
  debugEntryData _ := "LedgerEntryData"
  debugOperationBody _ := "OperationBody"

end SorobanFork.Sample
