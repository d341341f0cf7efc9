import SorobanFork.Xdr.Val

/-!
# Ledger keys and ledger entries

The XDR types of the ledger: one `LedgerEntry` lives under each `LedgerKey`.
The six kinds of entry the fork builds or reads (account, trustline, contract
data, contract code, config setting, TTL) have their fields.  The other four
are only passed through, so beyond the fields of their key they hold the rest
of their XDR as bytes; so do the extension variants past `V0`.
-/

namespace SorobanFork

inductive ContractDataDurability : Type
  | temporary
  | persistent
deriving DecidableEq

inductive TrustLineAsset : Type
  | native
  | creditAlphanum4 (assetCode : List.Vector UInt8 4) (issuer : AccountId)
  | creditAlphanum12 (assetCode : List.Vector UInt8 12) (issuer : AccountId)
  | poolShare (poolId : Hash)
deriving DecidableEq

inductive ConfigSettingId : Type
  | contractMaxSizeBytes
  | contractComputeV0
  | contractLedgerCostV0
  | contractHistoricalDataV0
  | contractEventsV0
  | contractBandwidthV0
  | contractCostParamsCpuInstructions
  | contractCostParamsMemoryBytes
  | contractDataKeySizeBytes
  | contractDataEntrySizeBytes
  | stateArchival
  | contractExecutionLanes
  | liveSorobanStateSizeWindow
  | evictionIterator
  | contractParallelComputeV0
  | contractLedgerCostExtV0
  | scpTiming
deriving DecidableEq

inductive LedgerKey : Type
  | account (accountId : AccountId)
  | trustline (accountId : AccountId) (asset : TrustLineAsset)
  | offer (sellerId : AccountId) (offerId : Int64)
  | data (accountId : AccountId) (dataName : Bytes)
  | claimableBalance (balanceId : Hash)
  | liquidityPool (liquidityPoolId : Hash)
  | contractData (contract : ScAddress) (key : ScVal) (durability : ContractDataDurability)
  | contractCode (hash : Hash)
  | configSetting (configSettingId : ConfigSettingId)
  | ttl (keyHash : Hash)
deriving DecidableEq

structure Signer : Type where
  key : Bytes
  weight : UInt32
deriving DecidableEq

/-- An XDR extension union: `V0` is empty, the bodies of the others are opaque here. -/
inductive EntryExt : Type
  | v0
  | other (body : Bytes)
deriving DecidableEq

structure AccountEntry : Type where
  accountId : AccountId
  balance : Int64
  seqNum : Int64
  numSubEntries : UInt32
  inflationDest : Option AccountId
  flags : UInt32
  homeDomain : Bytes
  thresholds : List.Vector UInt8 4
  signers : List Signer
  ext : EntryExt
deriving DecidableEq

structure TrustLineEntry : Type where
  accountId : AccountId
  asset : TrustLineAsset
  balance : Int64
  limit : Int64
  flags : UInt32
  ext : EntryExt
deriving DecidableEq

structure OfferEntry : Type where
  sellerId : AccountId
  offerId : Int64
  body : Bytes
deriving DecidableEq

structure DataEntry : Type where
  accountId : AccountId
  dataName : Bytes
  body : Bytes
deriving DecidableEq

structure ClaimableBalanceEntry : Type where
  balanceId : Hash
  body : Bytes
deriving DecidableEq

structure LiquidityPoolEntry : Type where
  liquidityPoolId : Hash
  body : Bytes
deriving DecidableEq

structure ContractDataEntry : Type where
  ext : EntryExt
  contract : ScAddress
  key : ScVal
  durability : ContractDataDurability
  val : ScVal
deriving DecidableEq

structure ContractCodeEntry : Type where
  ext : EntryExt
  hash : Hash
  code : Bytes
deriving DecidableEq

structure ConfigSettingContractComputeV0 : Type where
  ledgerMaxInstructions : Int64
  txMaxInstructions : Int64
  feeRatePerInstructionsIncrement : Int64
  txMemoryLimit : UInt32
deriving DecidableEq

/-- The settings a fee schedule is read from carry the fee fields it reads and
the rest of their XDR; any other setting is its id and its XDR. -/
inductive ConfigSettingEntry : Type
  | contractComputeV0 (setting : ConfigSettingContractComputeV0)
  | contractLedgerCostV0 (feeDiskReadLedgerEntry feeWriteLedgerEntry feeDiskRead1Kb : Int64)
      (body : Bytes)
  | contractLedgerCostExtV0 (feeWrite1Kb : Int64) (body : Bytes)
  | contractHistoricalDataV0 (feeHistorical1Kb : Int64)
  | contractEventsV0 (feeContractEvents1Kb : Int64) (body : Bytes)
  | contractBandwidthV0 (feeTxSize1Kb : Int64) (body : Bytes)
  | other (id : ConfigSettingId) (body : Bytes)
deriving DecidableEq

structure TtlEntry : Type where
  keyHash : Hash
  liveUntilLedgerSeq : UInt32
deriving DecidableEq

inductive LedgerEntryData : Type
  | account (entry : AccountEntry)
  | trustline (entry : TrustLineEntry)
  | offer (entry : OfferEntry)
  | data (entry : DataEntry)
  | claimableBalance (entry : ClaimableBalanceEntry)
  | liquidityPool (entry : LiquidityPoolEntry)
  | contractData (entry : ContractDataEntry)
  | contractCode (entry : ContractCodeEntry)
  | configSetting (entry : ConfigSettingEntry)
  | ttl (entry : TtlEntry)
deriving DecidableEq

structure LedgerEntry : Type where
  lastModifiedLedgerSeq : UInt32
  data : LedgerEntryData
  ext : EntryExt
deriving DecidableEq

def ConfigSettingEntry.id : ConfigSettingEntry → ConfigSettingId
  | .contractComputeV0 _ => .contractComputeV0
  | .contractLedgerCostV0 _ _ _ _ => .contractLedgerCostV0
  | .contractLedgerCostExtV0 _ _ => .contractLedgerCostExtV0
  | .contractHistoricalDataV0 _ => .contractHistoricalDataV0
  | .contractEventsV0 _ _ => .contractEventsV0
  | .contractBandwidthV0 _ _ => .contractBandwidthV0
  | .other id _ => id

/-- The key that the fields of an entry name: the key it belongs under. -/
def LedgerEntryData.key : LedgerEntryData → LedgerKey
  | .account e => .account e.accountId
  | .trustline e => .trustline e.accountId e.asset
  | .offer e => .offer e.sellerId e.offerId
  | .data e => .data e.accountId e.dataName
  | .claimableBalance e => .claimableBalance e.balanceId
  | .liquidityPool e => .liquidityPool e.liquidityPoolId
  | .contractData e => .contractData e.contract e.key e.durability
  | .contractCode e => .contractCode e.hash
  | .configSetting e => .configSetting e.id
  | .ttl e => .ttl e.keyHash

/-- `EntryWithLiveUntil`: an entry with the ledger it lives until, if it has one. -/
abbrev EntryWithLiveUntil : Type := LedgerEntry × Option UInt32

end SorobanFork
