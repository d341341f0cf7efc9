import SorobanFork.Fees
import SorobanFork.TestAccounts

/-!
# The forked environment (`lib.rs`)

`World` collects what the fork runs on and does not implement: the upstream
RPC, the host, the host's fee function, SHA-256 and the system clock.
`ForkedEnv` is the state of one fork.

The host is a `Reader`: it reads the ledger through `SnapshotSource::get` and
writes nothing; the changes it would make are part of what it returns.

`ForkedEnv.OnlyReads` says that a piece of work did nothing but read:
`read_onlyReads` and `feeConfiguration_onlyReads` are the rules it is proved by.
-/

namespace SorobanFork

open Lib

/-- The host's `LedgerInfo`. -/
structure LedgerInfo : Type where
  protocolVersion : UInt32
  sequenceNumber : UInt32
  timestamp : UInt64
  networkId : Hash
  baseReserve : UInt32
  minPersistentEntryTtl : UInt32
  minTempEntryTtl : UInt32
  maxEntryTtl : UInt32
deriving DecidableEq

/-- What a recording-mode invocation returns (`InvokeHostFunctionRecordingModeResult`).
A host error is its displayed text. -/
structure RecordingModeResult (X : Xdr) : Type where
  invokeResult : Except String ScVal
  resources : SorobanResources
  auth : List SorobanAuthorizationEntry
  ledgerChanges : List (LedgerEntryChange X)
  contractEvents : List ContractEvent

/-- Everything a recording-mode invocation leaves behind: its result, the
diagnostic events it pushed, and the memory its budget metered. -/
structure Invocation (X : Xdr) : Type where
  result : Except String (RecordingModeResult X)
  diagnosticEvents : List DiagnosticEvent
  memBytes : Option UInt64

/-- What the fork runs on. -/
structure World (X : Xdr) : Type where
  client : RpcClient
  /-- `invoke_host_function_in_recording_mode` with the arguments that are the
  same in every call (default budget, diagnostics on, `Recording(false)`, zero
  seed) filled in. -/
  invoke : LedgerInfo → HostFunction → AccountId → Reader (Invocation X)
  /-- The non-refundable and the refundable fee. -/
  computeTransactionResourceFee : TransactionResources → FeeConfiguration → Int64 × Int64
  sha256 : X.Buf → Hash
  /-- Seconds since the epoch at the `n`-th reading of the clock; `none` before it. -/
  systemTime : Nat → Option UInt64
  /-- Whether integer overflow panics (a debug build) or wraps. -/
  overflowChecks : Bool

structure ForkedEnv (X : Xdr) : Type where
  /-- `env.ledger().get()`. -/
  ledger : LedgerInfo
  source : RpcSnapshotSource X
  cachePath : Option Path
  /-- The field `ledger_sequence`: the sequence at the fork point. -/
  forkLedgerSequence : UInt32
  /-- The field `timestamp`: the close time at the fork point. -/
  forkTimestamp : UInt64
  networkId : Hash
  protocolVersion : UInt32
  passphrase : Option String
  /-- `OnceCell<FeeConfiguration>`. -/
  feeCell : Option FeeConfiguration
  testAccounts : List TestAccount

/-- `LEDGER_INTERVAL_SECONDS`. -/
def ledgerIntervalSeconds : UInt64 := 5

namespace LedgerInfo

/-- The clock after `ledgers` ledgers and `seconds` seconds. -/
def advance (info : LedgerInfo) (ledgers : UInt32) (seconds : UInt64) : LedgerInfo :=
  { info with
    sequenceNumber := saturatingAdd32 info.sequenceNumber ledgers
    timestamp := saturatingAdd64 info.timestamp seconds }

end LedgerInfo

namespace ForkedEnv

variable {X : Xdr}

def warp (ledgers : UInt32) (seconds : UInt64) (env : ForkedEnv X) : ForkedEnv X :=
  { env with ledger := env.ledger.advance ledgers seconds }

def warpTime (seconds : UInt64) (env : ForkedEnv X) : ForkedEnv X :=
  env.warp (seconds / ledgerIntervalSeconds).toUInt32 seconds

def warpLedger (ledgers : UInt32) (env : ForkedEnv X) : ForkedEnv X :=
  env.warp ledgers (ledgers.toUInt64 * ledgerIntervalSeconds)

/-- The sequence the fork currently reports. -/
def ledgerSequence (env : ForkedEnv X) : UInt32 := env.ledger.sequenceNumber

/-- The close time the fork currently reports. -/
def ledgerCloseTime (env : ForkedEnv X) : UInt64 := env.ledger.timestamp

/-- Run a reader against the fork's snapshot source. -/
def read {α : Type} (world : World X) (reader : Reader α) (env : ForkedEnv X) :
    Except Panic α × ForkedEnv X :=
  let (result, source) := env.source.read world.client reader
  (result, { env with source := source })

/-- The fee schedule, resolved on first use and kept from then on. -/
def feeConfiguration (world : World X) (env : ForkedEnv X) :
    Except Panic (Except FeeError FeeConfiguration) × ForkedEnv X :=
  match env.feeCell with
  | some cfg => (.ok (.ok cfg), env)
  | none =>
    match env.read world fetchFeeConfiguration with
    | (.ok (.ok cfg), env) => (.ok (.ok cfg), { env with feeCell := some cfg })
    | (.ok (.error e), env) => (.ok (.error e), env)
    | (.error panic, env) => (.error panic, env)

/-! ## Work that only reads -/

/-- `env'` is `env` after some reads: the cache may have grown and the fee cell
may have been filled, and the ledger the fork shows is the same. -/
structure OnlyReads (client : RpcClient) (env env' : ForkedEnv X) : Prop where
  frame : env' = { env with source := env'.source, feeCell := env'.feeCell }
  extends_cached : Extends env.source.cached env'.source.cached
  fetchMode : env'.source.fetchMode = env.source.fetchMode
  view : ∀ upstream, client.Fixed upstream →
    env'.source.view upstream = env.source.view upstream

namespace OnlyReads

variable {client : RpcClient} {env env' env₁ env₂ env₃ : ForkedEnv X}

theorem refl (env : ForkedEnv X) : OnlyReads client env env where
  frame := rfl
  extends_cached := .refl _
  fetchMode := rfl
  view _ _ := rfl

theorem trans (first : OnlyReads client env₁ env₂) (second : OnlyReads client env₂ env₃) :
    OnlyReads client env₁ env₃ where
  frame := by
    rw [second.frame, first.frame]
  extends_cached := first.extends_cached.trans second.extends_cached
  fetchMode := second.fetchMode.trans first.fetchMode
  view upstream fixed := (second.view upstream fixed).trans (first.view upstream fixed)

theorem ledger (reads : OnlyReads client env env') : env'.ledger = env.ledger := by
  rw [reads.frame]

theorem networkId (reads : OnlyReads client env env') : env'.networkId = env.networkId := by
  rw [reads.frame]

theorem protocolVersion (reads : OnlyReads client env env') :
    env'.protocolVersion = env.protocolVersion := by
  rw [reads.frame]

theorem passphrase (reads : OnlyReads client env env') : env'.passphrase = env.passphrase := by
  rw [reads.frame]

theorem isSome_cached (reads : OnlyReads client env env') {key : LedgerKey}
    (held : (env.source.cached key).isSome) : (env'.source.cached key).isSome := by
  obtain ⟨value, cached⟩ := Option.isSome_iff_exists.mp held
  rw [reads.extends_cached key value cached]
  rfl

end OnlyReads

variable {world : World X} {env : ForkedEnv X}

theorem read_fst {α : Type} (reader : Reader α) :
    (env.read world reader).1 = (env.source.read world.client reader).1 := rfl

/-- A reader runs on the source alone. -/
theorem source_of_read {α : Type} {reader : Reader α} {result : Except Panic α}
    {env' : ForkedEnv X} (ran : env.read world reader = (result, env')) :
    env.source.read world.client reader = (result, env'.source) := by
  have answer := congrArg Prod.fst ran
  have after := congrArg (fun outcome => outcome.2.source) ran
  exact Prod.ext answer after

theorem value_of_read {α : Type} {upstream : Upstream} {reader : Reader α} {value : α}
    {env' : ForkedEnv X} (fixed : world.client.Fixed upstream)
    (ran : env.read world reader = (.ok value, env')) :
    reader.value (fun key => (env.source.view upstream key).join) = value :=
  RpcSnapshotSource.value_of_read fixed (source_of_read ran)

theorem read_onlyReads {α : Type} (world : World X) (env : ForkedEnv X) (reader : Reader α) :
    OnlyReads world.client env (env.read world reader).2 where
  frame := rfl
  extends_cached := RpcSnapshotSource.extends_read reader
  fetchMode := RpcSnapshotSource.fetchMode_read reader
  view _ fixed := RpcSnapshotSource.view_read fixed reader

/-- A schedule comes from the cell, or it is read and put there, or none is read. -/
theorem feeConfiguration_cases (world : World X) (env : ForkedEnv X) :
    (∃ cfg, env.feeCell = some cfg ∧ env.feeConfiguration world = (.ok (.ok cfg), env)) ∨
      env.feeCell = none ∧ ∃ result mid, env.read world fetchFeeConfiguration = (result, mid) ∧
        ((∃ cfg, result = .ok (.ok cfg) ∧
            env.feeConfiguration world = (.ok (.ok cfg), { mid with feeCell := some cfg })) ∨
          (∀ cfg, result ≠ .ok (.ok cfg)) ∧ env.feeConfiguration world = (result, mid)) := by
  unfold feeConfiguration
  cases cell : env.feeCell with
  | some cfg => exact .inl ⟨cfg, rfl, rfl⟩
  | none =>
      refine .inr ⟨rfl, ?_⟩
      rcases ran : env.read world fetchFeeConfiguration with ⟨panic | e | cfg, mid⟩
      · exact ⟨.error panic, mid, rfl, .inr ⟨nofun, rfl⟩⟩
      · exact ⟨.ok (.error e), mid, rfl, .inr ⟨nofun, rfl⟩⟩
      · exact ⟨.ok (.ok cfg), mid, rfl, .inl ⟨cfg, rfl, rfl⟩⟩

theorem feeConfiguration_onlyReads (world : World X) (env : ForkedEnv X) :
    OnlyReads world.client env (env.feeConfiguration world).2 := by
  have reads := read_onlyReads world env fetchFeeConfiguration
  obtain ⟨cfg, -, same⟩ | ⟨-, result, mid, ran, outcome⟩ := feeConfiguration_cases world env
  · rw [same]
    exact .refl env
  · rw [ran] at reads
    obtain ⟨cfg, -, same⟩ | ⟨-, same⟩ := outcome
    · rw [same]
      exact reads.trans ⟨rfl, .refl _, rfl, fun _ _ => rfl⟩
    · rw [same]
      exact reads

end ForkedEnv

end SorobanFork
