import SorobanFork.View

/-!
# The fee schedule (`fees.rs`)

The resource-fee schedule is read from six `ConfigSetting` entries of the
ledger.  The fee itself is computed by the host crate and is a parameter of the
development (`World.computeTransactionResourceFee`).
-/

namespace SorobanFork

open Lib

/-- The host's `FeeConfiguration`; every field starts at zero. -/
structure FeeConfiguration : Type where
  feePerInstructionIncrement : Int64 := 0
  feePerDiskReadEntry : Int64 := 0
  feePerWriteEntry : Int64 := 0
  feePerDiskRead1kb : Int64 := 0
  feePerWrite1kb : Int64 := 0
  feePerHistorical1kb : Int64 := 0
  feePerContractEvent1kb : Int64 := 0
  feePerTransactionSize1kb : Int64 := 0
deriving DecidableEq

/-- The host's `TransactionResources`. -/
structure TransactionResources : Type where
  instructions : UInt32
  diskReadEntries : UInt32
  writeEntries : UInt32
  diskReadBytes : UInt32
  writeBytes : UInt32
  contractEventsSizeBytes : UInt32
  transactionSizeBytes : UInt32
deriving DecidableEq

/-- What the `ForkError::Host` message of a failed resolution reports. -/
inductive FeeError : Type
  /-- "config setting absent on the ledger" -/
  | absent (id : ConfigSettingId)
  /-- "expected ConfigSetting entry, got {other:?}" -/
  | notConfigSetting (id : ConfigSettingId) (other : LedgerEntryData)
  /-- "unexpected variant {other:?}" -/
  | unexpectedVariant (id : ConfigSettingId) (other : ConfigSettingEntry)
deriving DecidableEq

/-- Record the setting stored under `id` in the schedule. -/
def applySetting (id : ConfigSettingId) (cfg : FeeConfiguration) :
    ExceptT FeeError Reader FeeConfiguration :=
  .ask (.configSetting id) fun resolved => .ret <|
    match resolved with
    | none => .error (.absent id)
    | some (entry, _) =>
      match entry.data with
      | .configSetting (.contractComputeV0 c) =>
        .ok { cfg with feePerInstructionIncrement := c.feeRatePerInstructionsIncrement }
      | .configSetting (.contractLedgerCostV0 diskReadEntry writeEntry diskRead1Kb _) =>
        .ok { cfg with
          feePerDiskReadEntry := diskReadEntry
          feePerWriteEntry := writeEntry
          feePerDiskRead1kb := diskRead1Kb }
      | .configSetting (.contractLedgerCostExtV0 write1Kb _) =>
        .ok { cfg with feePerWrite1kb := write1Kb }
      | .configSetting (.contractHistoricalDataV0 historical1Kb) =>
        .ok { cfg with feePerHistorical1kb := historical1Kb }
      | .configSetting (.contractEventsV0 contractEvents1Kb _) =>
        .ok { cfg with feePerContractEvent1kb := contractEvents1Kb }
      | .configSetting (.contractBandwidthV0 txSize1Kb _) =>
        .ok { cfg with feePerTransactionSize1kb := txSize1Kb }
      | .configSetting other => .error (.unexpectedVariant id other)
      | other => .error (.notConfigSetting id other)

/-- Resolve the schedule; the first setting that fails ends the resolution. -/
def fetchFeeConfiguration : ExceptT FeeError Reader FeeConfiguration := do
  let cfg ← applySetting .contractComputeV0 {}
  let cfg ← applySetting .contractLedgerCostV0 cfg
  let cfg ← applySetting .contractLedgerCostExtV0 cfg
  let cfg ← applySetting .contractHistoricalDataV0 cfg
  let cfg ← applySetting .contractEventsV0 cfg
  applySetting .contractBandwidthV0 cfg

/-! ## The settings a schedule is read from -/

/-- The settings a schedule is made of, in the order in which they are read. -/
def feeSettings : List ConfigSettingId :=
  [.contractComputeV0, .contractLedgerCostV0, .contractLedgerCostExtV0, .contractHistoricalDataV0,
    .contractEventsV0, .contractBandwidthV0]

/-- Their keys. -/
def feeKeys : List LedgerKey := feeSettings.map .configSetting

/-- Apply a list of settings in order; the first that fails ends the resolution. -/
def applySettings : List ConfigSettingId → FeeConfiguration →
    Reader (Except FeeError FeeConfiguration)
  | [], cfg => .ret (.ok cfg)
  | id :: ids, cfg => (applySetting id cfg).run.bind fun
    | .ok cfg => applySettings ids cfg
    | .error e => .ret (.error e)

section

variable {ledger : LedgerKey → Option EntryWithLiveUntil} {cfg : FeeConfiguration}

theorem applySettings_cons (id : ConfigSettingId) (ids : List ConfigSettingId)
    (cfg : FeeConfiguration) :
    applySettings (id :: ids) cfg =
      (applySetting id cfg >>= fun cfg => ExceptT.mk (applySettings ids cfg)).run := by
  refine congrArg (applySetting id cfg).run.bind (funext fun result => ?_)
  cases result <;> rfl

theorem applySetting_bind_nil (id : ConfigSettingId) (cfg : FeeConfiguration) :
    (applySetting id cfg >>= fun cfg => ExceptT.mk (applySettings [] cfg)) =
      applySetting id cfg := by
  have returned (result : Except FeeError FeeConfiguration) :
      ExceptT.bindCont (fun cfg => ExceptT.mk (applySettings [] cfg)) result =
        (Prog.ret result : Reader _) := by
    cases result <;> rfl
  exact congrArg (Prog.ask (LedgerKey.configSetting id)) (funext fun found => returned _)

theorem fetchFeeConfiguration_eq : fetchFeeConfiguration.run = applySettings feeSettings {} := by
  simp only [feeSettings, applySettings_cons, applySetting_bind_nil]
  rfl

/-- Resolving asks for the keys of the settings in order, and for all of them if
it succeeds. -/
theorem asked_applySettings (ids : List ConfigSettingId) (cfg : FeeConfiguration) :
    (∀ key ∈ (applySettings ids cfg).asked ledger, key ∈ ids.map .configSetting) ∧
      ∀ cfg', (applySettings ids cfg).value ledger = .ok cfg' →
        (applySettings ids cfg).asked ledger = ids.map .configSetting := by
  induction ids generalizing cfg with
  | nil => exact ⟨nofun, fun _ _ => rfl⟩
  | cons id ids ih =>
      rw [applySettings, List.map_cons, Prog.asked_bind, Prog.value_bind,
        show (applySetting id cfg).run.asked ledger = [.configSetting id] from rfl]
      cases (applySetting id cfg).run.value ledger with
      | error e =>
          refine ⟨fun key mem => ?_, fun cfg' failed => by cases failed⟩
          rcases List.mem_cons.mp mem with rfl | none
          · exact .head _
          · cases none
      | ok next =>
          obtain ⟨among, all⟩ := ih next
          refine ⟨fun key mem => ?_, fun cfg' resolved => ?_⟩
          · rcases List.mem_cons.mp mem with rfl | mem
            · exact .head _
            · exact .tail _ (among key mem)
          · exact congrArg (List.cons _) (all cfg' resolved)

theorem mem_feeKeys_of_asked {key : LedgerKey}
    (mem : key ∈ Prog.asked ledger fetchFeeConfiguration.run) : key ∈ feeKeys := by
  rw [fetchFeeConfiguration_eq] at mem
  exact (asked_applySettings feeSettings {}).1 key mem

theorem asked_eq_feeKeys (resolved : Prog.value ledger fetchFeeConfiguration.run = .ok cfg) :
    Prog.asked ledger fetchFeeConfiguration.run = feeKeys := by
  rw [fetchFeeConfiguration_eq] at resolved ⊢
  exact (asked_applySettings feeSettings {}).2 cfg resolved

end

end SorobanFork
