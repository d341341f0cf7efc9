import SorobanFork.Server.Numbers
import SorobanFork.Server.Types

/-!
# The request handlers (`server/handlers.rs`)

A handler decodes its parameters, sends commands to the worker one after
another, and builds a response.  It is a program that asks commands, so the
same definition runs alone against a server or interleaved with other handlers.
A failed send ends it: `dispatch` answers such a request with `internal_error`.

Decoding is pure and comes first in every handler, but for `fork_etch`, which
inspects the instance entry after it has installed the code.
-/

namespace SorobanFork

open Lib

/-- How a handler fails: with an error response, or by a panic of its task. -/
inductive HandlerError : Type
  | rpc (error : JsonRpcError)
  | panic (message : String)
deriving DecidableEq

/-- A request handler. -/
abbrev Handler (X : Xdr) (α : Type) : Type :=
  ExceptT HandlerError (Prog (Command X) Command.Reply) α

/-- Send a command and wait for its reply. -/
def send {X : Xdr} (cmd : Command X) : Handler X cmd.Reply := .ask cmd fun reply => .ret (.ok reply)

/-- Continue with a decoded value, or fail. -/
def decoded {X : Xdr} {α : Type} (value : Except HandlerError α) : Handler X α := .ret value

def invalidParams (detail : String) : HandlerError := .rpc (.invalidParams detail)

def internalError (detail : String) : HandlerError := .rpc (.internalError detail)

section

variable {X : Xdr} {α β : Type}

@[simp] theorem send_bind (cmd : Command X) (next : cmd.Reply → Handler X β) :
    (send cmd >>= next : Handler X β) = Prog.ask cmd next := rfl

@[simp] theorem decoded_ok_bind (a : α) (next : α → Handler X β) :
    (decoded (.ok a) >>= next : Handler X β) = next a := rfl

@[simp] theorem decoded_error_bind (e : HandlerError) (next : α → Handler X β) :
    (decoded (.error e) >>= next : Handler X β) = Prog.ret (.error e) := rfl

end

/-! ## Constants -/

def serverVersion : String := "0.9.5"

def commitHash : String := "unknown"

def buildTimestamp : String := "unknown"

def captiveCoreVersion : String := "n/a (forked-RPC mode)"

/-- Lower-case hex of a 32-byte hash. -/
def hexLower (hash : Hash) : String := hexEncode hash.toList

section

variable {X : Xdr} (world : World X) (wire : Wire X)

/-! ## Decoding -/

/-- Deserialise the parameters of a method. -/
def parseParams {α : Type} (method : String) (parse : wire.Json → Except String α)
    (params : wire.Json) : Except HandlerError α :=
  (parse params).mapError fun e => invalidParams s!"{method} params: {e}"

/-- Decode a base64 field. -/
def decodeBase64 (field text : String) : Except HandlerError X.Buf :=
  (wire.base64Decode text).mapError fun e => invalidParams s!"{field}: base64 decode: {e}"

/-- Parse the XDR in a field; `what` names the type in the error, if at all. -/
def decodeXdr {α : Type} (codec : Codec X.Buf α) (field what : String) (bytes : X.Buf) :
    Except HandlerError α :=
  match codec.fromXdr bytes with
  | some a => .ok a
  | none => .error (invalidParams s!"{field}: {what}XDR decode: {codec.errorText bytes}")

/-- Decode a "C..." strkey. -/
def decodeContract (field text : String) : Except HandlerError Hash :=
  (wire.contractFromString text).mapError fun e =>
    invalidParams s!"{field}: not a valid C... strkey: {e}"

/-- Decode a "G..." strkey. -/
def decodePublicKey (field text : String) : Except HandlerError Uint256 :=
  (wire.publicKeyFromString text).mapError fun e =>
    invalidParams s!"{field}: not a valid G... strkey: {e}"

/-- `wasm.try_into()`: the bytes as a `BytesM`, unless they are too many. -/
def wasmBytes (wasm : X.Buf) : Except HandlerError Bytes :=
  if X.len wasm ≤ 2 ^ 32 - 1 then .ok (X.bytes wasm)
  else .error (invalidParams "wasm: bytes exceed XDR BytesM<u32::MAX> capacity")

section

variable {world} {wire}

theorem parseParams_ok {α : Type} {method : String} {parse : wire.Json → Except String α}
    {params : wire.Json} {a : α} (parses : parse params = .ok a) :
    parseParams wire method parse params = .ok a := by
  rw [parseParams, parses, Except.mapError]

theorem decodeBase64_ok {field text : String} {bytes : X.Buf}
    (decodes : wire.base64Decode text = .ok bytes) :
    decodeBase64 wire field text = .ok bytes := by
  rw [decodeBase64, decodes, Except.mapError]

theorem decodeXdr_ok {α : Type} {codec : Codec X.Buf α} {field what : String} {bytes : X.Buf}
    {a : α} (parses : codec.fromXdr bytes = some a) :
    decodeXdr codec field what bytes = .ok a := by
  rw [decodeXdr, parses]

theorem decodeContract_ok {field text : String} {contract : Hash}
    (decodes : wire.contractFromString text = .ok contract) :
    decodeContract wire field text = .ok contract := by
  rw [decodeContract, decodes, Except.mapError]

theorem decodePublicKey_ok {field text : String} {key : Uint256}
    (decodes : wire.publicKeyFromString text = .ok key) :
    decodePublicKey wire field text = .ok key := by
  rw [decodePublicKey, decodes, Except.mapError]

end

/-- `MuxedAccount` to the account it belongs to. -/
def MuxedAccount.accountId : MuxedAccount → AccountId
  | .ed25519 key => ⟨key⟩
  | .muxedEd25519 _ key => ⟨key⟩

/-- The host function of a Soroban envelope, and the account that invokes it:
the source of its operation, or else the source of the transaction. -/
def extractInvokeOp (env : TransactionEnvelope) : Except HandlerError (HostFunction × AccountId) :=
  let fromTx (tx : Transaction) : Except HandlerError (HostFunction × AccountId) :=
    match tx.operations with
    | [op] =>
      match op.body with
      | .invokeHostFunction invokeOp =>
        -- the operation's own source wins over the transaction's
        .ok (invokeOp.hostFunction, (op.sourceAccount.getD tx.sourceAccount).accountId)
      | other =>
        .error (invalidParams
          ("simulateTransaction: only InvokeHostFunction operations supported, got " ++
            wire.debugOperationBody other))
    | operations =>
      .error (invalidParams
        s!"simulateTransaction: expected exactly 1 operation, got {operations.length}")
  match env with
  | .txV0 _ =>
    .error (invalidParams
      "simulateTransaction: V0 transaction envelopes do not support Soroban operations")
  | .tx v1 => fromTx v1.tx
  | .txFeeBump fb => fromTx fb.tx.innerTx.tx

/-! ## Network and ledger metadata -/

def handleGetHealth : Handler X Response := do
  let reply ← send .getLatestLedger
  return .health
    { status := "healthy"
      latestLedger := reply.sequence
      oldestLedger := reply.sequence
      ledgerRetentionWindow := 0 }

def handleGetVersionInfo : Handler X Response := do
  let reply ← send .getNetwork
  return .versionInfo
    { version := serverVersion
      commitHash := commitHash
      buildTimestamp := buildTimestamp
      captiveCoreVersion := captiveCoreVersion
      protocolVersion := reply.protocolVersion }

def handleGetNetwork : Handler X Response := do
  let reply ← send .getNetwork
  return .network
    { passphrase := reply.passphrase
      protocolVersion := reply.protocolVersion
      networkId := reply.networkIdHex
      friendbotUrl := none }

def handleGetLatestLedger : Handler X Response := do
  let reply ← send .getLatestLedger
  return .latestLedger
    { id := reply.id
      sequence := reply.sequence
      protocolVersion := reply.protocolVersion }

/-- The parameters of `getLedgers`; `null` stands for none. -/
def decodeGetLedgers (params : wire.Json) : Except HandlerError GetLedgersParams :=
  if wire.isNull params then .ok ⟨none⟩
  else parseParams wire "getLedgers" wire.getLedgersParams params

def handleGetLedgers (params : wire.Json) : Handler X Response := do
  let _ ← decoded (decodeGetLedgers wire params)
  let reply ← send .getLedgersPage
  let closeTime := toString reply.closeTime
  return .ledgers
    { ledgers :=
        [{ hash := s!"forked-ledger-hash-{reply.sequence}"
           sequence := reply.sequence
           ledgerCloseTime := closeTime }]
      latestLedger := reply.sequence
      latestLedgerCloseTime := closeTime
      oldestLedger := reply.sequence
      oldestLedgerCloseTime := closeTime
      cursor := "" }

/-! ## Reading entries -/

/-- Decode the keys of a request from index `i` on; the first bad one is reported. -/
def decodeKeys : Nat → List String → Except HandlerError (List LedgerKey)
  | _, [] => .ok []
  | i, raw :: rest => do
    let bytes ← decodeBase64 wire s!"keys[{i}]" raw
    let key ← decodeXdr X.ledgerKey s!"keys[{i}]" "" bytes
    let keys ← decodeKeys (i + 1) rest
    return key :: keys

def decodeGetLedgerEntries (params : wire.Json) : Except HandlerError (List LedgerKey) := do
  let parsed ← parseParams wire "getLedgerEntries" wire.getLedgerEntriesParams params
  if parsed.keys.isEmpty then
    .error (invalidParams "getLedgerEntries: keys array must be non-empty")
  else decodeKeys wire 0 parsed.keys

/-- One present entry on the wire: its key and the data inside the entry. -/
def ledgerEntryItem (found : LedgerKey × LedgerEntry × Option UInt32) : LedgerEntryItem where
  key := wire.base64Encode (X.ledgerKey.toXdr found.1)
  xdr := wire.base64Encode (X.ledgerEntryData.toXdr found.2.1.data)
  lastModifiedLedgerSeq := found.2.1.lastModifiedLedgerSeq
  liveUntilLedgerSeq := found.2.2

def handleGetLedgerEntries (params : wire.Json) : Handler X Response := do
  let keys ← decoded (decodeGetLedgerEntries wire params)
  let reply ← send (.getLedgerEntries keys)
  return .ledgerEntries
    { entries := reply.entries.reduceOption.map (ledgerEntryItem wire)
      latestLedger := reply.latestLedger }

/-! ## Transactions -/

def decodeSimulateTransaction (params : wire.Json) :
    Except HandlerError (HostFunction × AccountId × UInt32) := do
  let parsed ← parseParams wire "simulateTransaction" wire.simulateTransactionParams params
  let bytes ← decodeBase64 wire "transaction" parsed.transaction
  let envelope ← decodeXdr X.envelope "transaction" "" bytes
  if X.len bytes < 2 ^ 32 then
    let (hostFunction, sourceAccount) ← extractInvokeOp wire envelope
    return (hostFunction, sourceAccount, UInt32.ofNat (X.len bytes))
  else
    .error (invalidParams
      s!"transaction: envelope too large for u32 ({X.len bytes} bytes)")

def encodeSimulationReply (reply : SimulationReply) : Response :=
  match reply.result with
  | .error error =>
    .simulateTransaction
      { transactionData := none
        minResourceFee := none
        events := none
        results := none
        cost := none
        latestLedger := reply.latestLedger
        error := some error }
  | .ok scval =>
    let events := reply.contractEvents.map (DiagnosticEvent.mk true ·) ++ reply.diagnosticEvents
    .simulateTransaction
      { transactionData := some (wire.base64Encode
          (wire.transactionDataToXdr ⟨reply.resources, reply.minResourceFee.getD 0⟩))
        minResourceFee := reply.minResourceFee.map toString
        events := some (events.map fun event => wire.base64Encode (X.diagnosticEvent.toXdr event))
        results := some
          [{ auth := reply.auth.map fun entry => wire.base64Encode (wire.authEntryToXdr entry)
             xdr := wire.base64Encode (X.scVal.toXdr scval) }]
        cost := reply.memBytes.map fun mem =>
          { cpuInsns := toString reply.resources.instructions
            memBytes := toString mem }
        latestLedger := reply.latestLedger
        error := none }

def handleSimulateTransaction (params : wire.Json) : Handler X Response := do
  let (hostFunction, sourceAccount, size) ← decoded (decodeSimulateTransaction wire params)
  let reply ← send (.simulateTransaction hostFunction sourceAccount size)
  return encodeSimulationReply wire reply

/-- A decoded `sendTransaction` request. -/
structure SendRequest (X : Xdr) : Type where
  envelopeBytes : X.Buf
  hostFunction : HostFunction
  sourceAccount : AccountId
  envelopeB64 : String

def decodeSendTransaction (params : wire.Json) : Except HandlerError (SendRequest X) := do
  let parsed ← parseParams wire "sendTransaction" wire.sendTransactionParams params
  let bytes ← decodeBase64 wire "transaction" parsed.transaction
  let envelope ← decodeXdr X.envelope "transaction" "" bytes
  let (hostFunction, sourceAccount) ← extractInvokeOp wire envelope
  return ⟨bytes, hostFunction, sourceAccount, parsed.transaction⟩

def handleSendTransaction (params : wire.Json) : Handler X Response := do
  let request ← decoded (decodeSendTransaction wire params)
  let sent ← send (.sendTransaction request.envelopeBytes request.hostFunction
    request.sourceAccount)
  let latest ← send .getLatestLedger
  let page ← send .getLedgersPage
  let (status, errorMessage) : SendStatus × Option String :=
    match sent.receipt.result with
    | .ok _ => (.success, none)
    | .error message => (.error, some message)
  return .sendTransaction
    { status := status
      hash := hexLower sent.hash
      latestLedger := latest.sequence
      latestLedgerCloseTime := toString page.closeTime
      envelopeXdr := request.envelopeB64
      errorMessage := errorMessage
      appliedChanges := sent.receipt.appliedChanges }

def decodeGetTransaction (params : wire.Json) : Except HandlerError Hash := do
  let parsed ← parseParams wire "getTransaction" wire.getTransactionParams params
  match parseHex32 parsed.hash with
  | some hash => .ok hash
  | none => .error (invalidParams "hash: must be 64-char hex")

/-- The `(resultXdr, resultMetaXdr)` pair of a found transaction. -/
def buildResultXdrs (returnValue : ScVal) (success : Bool) : String × String :=
  let txMeta : TransactionMetaV3 := ⟨some ⟨[], returnValue, []⟩⟩
  let result : TransactionResult :=
    { feeCharged := 0
      result :=
        if success then .txSuccess [.success zeroBytes32]
        else .txFailed [.trapped] }
  (wire.base64Encode (wire.transactionResultToXdr result),
    wire.base64Encode (wire.transactionMetaToXdr txMeta))

/-- The status a receipt is reported with. -/
def TransactionStatus.ofReceipt : Option (TxReceipt X) → TransactionStatus
  | none => .notFound
  | some receipt =>
    match receipt.result with
    | .ok _ => .success
    | .error _ => .failed

def getTransactionResponse (receipt : Option (TxReceipt X)) (latestLedger : UInt32) :
    GetTransactionResponse :=
  match receipt with
  | none => { status := .notFound, latestLedger := latestLedger }
  | some r =>
    match r.result with
    | .ok scval =>
      let (resultXdr, resultMetaXdr) := buildResultXdrs wire scval true
      { status := .success
        latestLedger := latestLedger
        ledger := some r.ledger
        createdAt := some (toString r.createdAt)
        envelopeXdr := some (wire.base64Encode r.envelopeBytes)
        returnValueXdr := some (wire.base64Encode (X.scVal.toXdr scval))
        resultXdr := some resultXdr
        resultMetaXdr := some resultMetaXdr
        appliedChanges := some r.appliedChanges }
    | .error message =>
      let (resultXdr, resultMetaXdr) := buildResultXdrs wire .void false
      { status := .failed
        latestLedger := latestLedger
        ledger := some r.ledger
        createdAt := some (toString r.createdAt)
        envelopeXdr := some (wire.base64Encode r.envelopeBytes)
        resultXdr := some resultXdr
        resultMetaXdr := some resultMetaXdr
        errorMessage := some message
        appliedChanges := some r.appliedChanges }

theorem getTransactionResponse_status (receipt : Option (TxReceipt X)) (latestLedger : UInt32) :
    (getTransactionResponse wire receipt latestLedger).status = .ofReceipt receipt := by
  cases receipt with
  | none => rfl
  | some r =>
      cases outcome : r.result <;>
        simp only [getTransactionResponse, TransactionStatus.ofReceipt, outcome]

def handleGetTransaction (params : wire.Json) : Handler X Response := do
  let hash ← decoded (decodeGetTransaction wire params)
  let receipt ← send (.getTransaction hash)
  let latest ← send .getLatestLedger
  return .getTransaction (getTransactionResponse wire receipt latest.sequence)

/-! ## Writing entries -/

/-- One entry to write. -/
structure EntryWrite : Type where
  key : LedgerKey
  entry : LedgerEntry
  liveUntil : Option UInt32
deriving DecidableEq

def EntryWrite.command (write : EntryWrite) : Command X :=
  .setLedgerEntry write.key write.entry write.liveUntil

def decodeSetLedgerEntry (params : wire.Json) : Except HandlerError EntryWrite := do
  let parsed ← parseParams wire "fork_setLedgerEntry" wire.setLedgerEntryParams params
  let keyBytes ← decodeBase64 wire "key" parsed.key
  let key ← decodeXdr X.ledgerKey "key" "" keyBytes
  let entryBytes ← decodeBase64 wire "entry" parsed.entry
  let entry ← decodeXdr X.ledgerEntry "entry" "" entryBytes
  return ⟨key, entry, parsed.liveUntilLedgerSeq⟩

def handleForkSetLedgerEntry (params : wire.Json) : Handler X Response := do
  let write ← decoded (decodeSetLedgerEntry wire params)
  send write.command
  let latest ← send .getLatestLedger
  return .setLedgerEntry { ok := true, latestLedger := latest.sequence }

/-- A contract data entry the fork synthesises. -/
def contractDataWrite (contract : ScAddress) (key : ScVal) (durability : ContractDataDurability)
    (val : ScVal) (liveUntil : Option UInt32) : EntryWrite where
  key := .contractData contract key durability
  entry :=
    { lastModifiedLedgerSeq := 0
      data := .contractData ⟨.v0, contract, key, durability, val⟩
      ext := .v0 }
  liveUntil := liveUntil

def StorageDurability.toXdr : StorageDurability → ContractDataDurability
  | .persistent => .persistent
  | .temporary => .temporary

def decodeSetStorage (params : wire.Json) : Except HandlerError EntryWrite := do
  let parsed ← parseParams wire "fork_setStorage" wire.setStorageParams params
  let contract ← decodeContract wire "contract" parsed.contract
  let keyBytes ← decodeBase64 wire "key" parsed.key
  let key ← decodeXdr X.scVal "key" "ScVal " keyBytes
  let valueBytes ← decodeBase64 wire "value" parsed.value
  let value ← decodeXdr X.scVal "value" "ScVal " valueBytes
  let durability := (parsed.durability.getD .persistent).toXdr
  return contractDataWrite (.contract contract) key durability value parsed.liveUntilLedgerSeq

def handleForkSetStorage (params : wire.Json) : Handler X Response := do
  let write ← decoded (decodeSetStorage wire params)
  send write.command
  let latest ← send .getLatestLedger
  return .setLedgerEntry { ok := true, latestLedger := latest.sequence }

/-- A contract code entry the fork synthesises, under the hash of its bytes. -/
def contractCodeWrite (hash : Hash) (code : Bytes) (liveUntil : Option UInt32) : EntryWrite where
  key := .contractCode hash
  entry :=
    { lastModifiedLedgerSeq := 0
      data := .contractCode ⟨.v0, hash, code⟩
      ext := .v0 }
  liveUntil := liveUntil

/-- The hash of the uploaded code, and the entry to write. -/
def decodeSetCode (params : wire.Json) : Except HandlerError (Hash × EntryWrite) := do
  let parsed ← parseParams wire "fork_setCode" wire.setCodeParams params
  let wasm ← decodeBase64 wire "wasm" parsed.wasm
  let hash := world.sha256 wasm
  let code ← wasmBytes wasm
  return (hash, contractCodeWrite hash code parsed.liveUntilLedgerSeq)

def handleForkSetCode (params : wire.Json) : Handler X Response := do
  let (hash, write) ← decoded (decodeSetCode world wire params)
  send write.command
  let latest ← send .getLatestLedger
  return .setCode { ok := true, hash := hexLower hash, latestLedger := latest.sequence }

end

end SorobanFork
