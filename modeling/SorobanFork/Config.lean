import SorobanFork.Cache
import SorobanFork.Env

/-!
# Building and dropping a fork (`lib.rs`)

`ForkConfig.build` starts a fork: the snapshot source is pre-loaded from the
cache file, if there is one that loads, and the test accounts are minted on top
of it.  `ForkedEnv.drop` writes the positive entries of the source back.

`ForkConfig.build_eq_ok` says what a fork that was built starts from; the file
enters it through `ForkConfig.initialSource` only.
-/

namespace SorobanFork

/-- `DEFAULT_FORK_TIME_BUFFER_SECONDS`. -/
def defaultForkTimeBufferSeconds : UInt64 := 3600

structure LatestLedger : Type where
  sequence : UInt32
  protocolVersion : UInt32
  closeTime : UInt64
deriving DecidableEq

structure NetworkMetadata : Type where
  passphrase : String
  networkId : Hash
deriving DecidableEq

/-- What a build finds besides the cache file: the upstream RPC (for anything
but ledger entries), the linked host, and the keys of the test accounts. -/
structure Site : Type where
  /-- `RpcClient::new`. -/
  newClient : Except ForkError Unit
  latestLedger : Except ForkError LatestLedger
  network : Except ForkError NetworkMetadata
  /-- `meta::INTERFACE_VERSION.protocol`. -/
  hostMax : UInt32
  /-- `set_diagnostic_level`; the argument is whether tracing is on. -/
  setDiagnosticLevel : Bool → Except String Unit
  publicKey : Nat → Uint256

/-- The transport settings (`rpc_url`, `rpc_config`) are part of the `Site`. -/
structure ForkConfig : Type where
  cachePath : Option Path
  networkId : Option Hash
  fetchMode : Option FetchMode
  pinnedLedger : Option UInt32
  pinnedTimestamp : Option UInt64
  maxProtocolVersion : Option UInt32
  tracing : Bool
  testAccountCount : Nat
  testTrustlines : List TrustLineAsset

/-- Never above what the host implements; a caller may pin lower. -/
def capProtocolVersion (latest : UInt32) (requestedMax : Option UInt32) (hostMax : UInt32) :
    UInt32 :=
  let effectiveMax := (requestedMax.map fun m => min m hostMax).getD hostMax
  min latest effectiveMax

/-- The entries of each test account: the account, then its trustlines. -/
def mintedEntries (testAccounts : List TestAccount) (testTrustlines : List TrustLineAsset)
    (sequence : UInt32) : List (LedgerKey × LedgerEntry × Option UInt32) :=
  testAccounts.flatMap fun a =>
    let withoutTtl (minted : LedgerKey × LedgerEntry) := (minted.1, minted.2, none)
    withoutTtl (a.ledgerEntry sequence) ::
      testTrustlines.map fun asset => withoutTtl (a.trustlineEntry asset sequence)

namespace ForkConfig

variable {X : Xdr} (format : SnapshotFormat)

/-- The source before the test accounts are minted: the entries of the cache
file, or none if it is missing or does not load. -/
def initialSource (disk : Disk format) (config : ForkConfig) : RpcSnapshotSource X :=
  let source := RpcSnapshotSource.new (config.fetchMode.getD .strict)
  match config.cachePath with
  | none => source
  | some path =>
    if (disk path).isSome then
      match loadSnapshot format path disk with
      | .ok entries => source.preload entries
      | .error _ => source
    else source

/-- The network id, with the passphrase if it was asked for. -/
def resolveNetwork (site : Site) (config : ForkConfig) :
    Except ForkError (Hash × Option String) :=
  match config.networkId with
  | some id => .ok (id, none)
  | none => site.network.map fun metadata => (metadata.networkId, some metadata.passphrase)

def build (site : Site) (disk : Disk format) (config : ForkConfig) :
    Except ForkError (ForkedEnv X) := do
  site.newClient
  let source : RpcSnapshotSource X := config.initialSource format disk
  let latest ← site.latestLedger
  let (networkId, passphrase) ← config.resolveNetwork site
  let sequence := config.pinnedLedger.getD latest.sequence
  let protocolVersion :=
    capProtocolVersion latest.protocolVersion config.maxProtocolVersion site.hostMax
  let timestamp := config.pinnedTimestamp.getD
    (saturatingAdd64 latest.closeTime defaultForkTimeBufferSeconds)
  let ledgerInfo : LedgerInfo :=
    { protocolVersion := protocolVersion
      sequenceNumber := sequence
      timestamp := timestamp
      networkId := networkId
      baseReserve := defaultBaseReserve
      minPersistentEntryTtl := defaultMinPersistentEntryTtl
      minTempEntryTtl := defaultMinTempEntryTtl
      maxEntryTtl := defaultMaxEntryTtl }
  let level := if config.tracing then "Debug" else "None"
  (site.setDiagnosticLevel config.tracing).mapError fun e =>
    ForkError.host s!"set_diagnostic_level({level}) failed: {e}"
  let testAccounts := generate site.publicKey config.testAccountCount
  return {
    ledger := ledgerInfo
    source := source.preload (mintedEntries testAccounts config.testTrustlines sequence)
    cachePath := config.cachePath
    forkLedgerSequence := sequence
    forkTimestamp := timestamp
    networkId := networkId
    protocolVersion := protocolVersion
    passphrase := passphrase
    feeCell := none
    testAccounts := testAccounts }

/-- The keys a build mints over whatever the cache file held. -/
def Mints (site : Site) (config : ForkConfig) (key : LedgerKey) : Prop :=
  ∃ a ∈ generate site.publicKey config.testAccountCount,
    key = .account a.accountId ∨ ∃ asset ∈ config.testTrustlines, key = .trustline a.accountId asset

instance (site : Site) (config : ForkConfig) (key : LedgerKey) :
    Decidable (config.Mints site key) :=
  inferInstanceAs (Decidable (∃ a ∈ _, _))

end ForkConfig

namespace ForkedEnv

variable {X : Xdr} (format : SnapshotFormat)

/-- `do_save_cache`: nothing is written when there is nothing to save. -/
def doSaveCache (faults : SaveFaults format) (stamp : SaveStamp) (source : RpcSnapshotSource X)
    (path : Path) (sequence : UInt32) (timestamp : UInt64) (networkId : Hash)
    (protocolVersion : UInt32) (disk : Disk format) : Except ForkError Unit × Disk format :=
  let entries := source.entries
  if entries.isEmpty then (.ok (), disk)
  else
    saveSnapshot format faults stamp path entries sequence timestamp networkId protocolVersion disk

/-- The file records the fork point, wherever the clock has moved since. -/
def saveCache (faults : SaveFaults format) (stamp : SaveStamp) (disk : Disk format)
    (env : ForkedEnv X) : Except ForkError Unit × Disk format :=
  match env.cachePath with
  | none => (.ok (), disk)
  | some path =>
    doSaveCache format faults stamp env.source path env.forkLedgerSequence env.forkTimestamp
      env.networkId env.protocolVersion disk

/-- `Drop`: a failed save is only logged. -/
def drop (faults : SaveFaults format) (stamp : SaveStamp) (disk : Disk format)
    (env : ForkedEnv X) : Disk format :=
  (env.saveCache format faults stamp disk).2

end ForkedEnv

/-! ## What a build starts from -/

theorem mem_mintedEntries {testAccounts : List TestAccount} {testTrustlines : List TrustLineAsset}
    {sequence : UInt32} {minted : LedgerKey × LedgerEntry × Option UInt32}
    (mem : minted ∈ mintedEntries testAccounts testTrustlines sequence) :
    ∃ a ∈ testAccounts, minted.1 = .account a.accountId ∨
      ∃ asset ∈ testTrustlines, minted.1 = .trustline a.accountId asset := by
  obtain ⟨a, memAccount, mem⟩ := List.mem_flatMap.mp mem
  refine ⟨a, memAccount, ?_⟩
  rcases List.mem_cons.mp mem with rfl | mem
  · exact .inl rfl
  · obtain ⟨asset, memAsset, rfl⟩ := List.mem_map.mp mem
    exact .inr ⟨asset, memAsset, rfl⟩

namespace ForkConfig

variable {X : Xdr} {format : SnapshotFormat} {site : Site} {disk : Disk format}
  {config : ForkConfig} {env : ForkedEnv X}

/-- A fork that was built holds the file's entries with the minted ones on top. -/
theorem build_eq_ok (built : config.build format site disk = .ok env) :
    env.cachePath = config.cachePath ∧
      env.source = (config.initialSource format disk).preload
        (mintedEntries env.testAccounts config.testTrustlines env.forkLedgerSequence) ∧
      env.testAccounts = generate site.publicKey config.testAccountCount := by
  unfold build at built
  rcases client : site.newClient with e | ⟨⟩
  · rw [client] at built
    cases built
  rcases latest : site.latestLedger with e | latest
  · rw [client, latest] at built
    cases built
  rcases network : config.resolveNetwork site with e | ⟨networkId, passphrase⟩
  · rw [client, latest, network] at built
    cases built
  rcases level : site.setDiagnosticLevel config.tracing with e | ⟨⟩
  · rw [client, latest, network, level] at built
    cases built
  · rw [client, latest, network, level] at built
    cases built
    exact ⟨rfl, rfl, rfl⟩

end ForkConfig

end SorobanFork
