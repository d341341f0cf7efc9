import SorobanFork.FeeSchedule

/-!
# Which contents make a fee schedule

`apply_setting` dispatches on the kind of setting it finds and not on the one it
asked for.  A schedule that resolves is complete when each of the six keys holds
a setting of its own kind; a content in which one of the keys holds no fee
setting at all is refused.  Between the two lie the contents in which every key
holds a fee setting, but some key that of another: they resolve, to a schedule
that is not complete (`completeOrRefused_iff`).
-/

namespace SorobanFork

open Lib

/-! ## Settings and the keys they belong under -/

/-- The fee setting that a setting is, if it is one of the six. -/
def ConfigSettingEntry.feeKind : ConfigSettingEntry → Option ConfigSettingId
  | .other _ _ => none
  | setting => some setting.id

/-- The schedule with the rates of a setting recorded in it. -/
def FeeConfiguration.record (cfg : FeeConfiguration) : ConfigSettingEntry → FeeConfiguration
  | .contractComputeV0 c =>
    { cfg with feePerInstructionIncrement := c.feeRatePerInstructionsIncrement }
  | .contractLedgerCostV0 diskReadEntry writeEntry diskRead1Kb _ =>
    { cfg with
      feePerDiskReadEntry := diskReadEntry
      feePerWriteEntry := writeEntry
      feePerDiskRead1kb := diskRead1Kb }
  | .contractLedgerCostExtV0 write1Kb _ => { cfg with feePerWrite1kb := write1Kb }
  | .contractHistoricalDataV0 historical1Kb => { cfg with feePerHistorical1kb := historical1Kb }
  | .contractEventsV0 contractEvents1Kb _ =>
    { cfg with feePerContractEvent1kb := contractEvents1Kb }
  | .contractBandwidthV0 txSize1Kb _ => { cfg with feePerTransactionSize1kb := txSize1Kb }
  | .other _ _ => cfg

/-- The schedule shows the rates that a setting carries. -/
def FeeConfiguration.Shows (cfg : FeeConfiguration) : ConfigSettingEntry → Prop
  | .contractComputeV0 c => cfg.feePerInstructionIncrement = c.feeRatePerInstructionsIncrement
  | .contractLedgerCostV0 diskReadEntry writeEntry diskRead1Kb _ =>
    cfg.feePerDiskReadEntry = diskReadEntry ∧ cfg.feePerWriteEntry = writeEntry ∧
      cfg.feePerDiskRead1kb = diskRead1Kb
  | .contractLedgerCostExtV0 write1Kb _ => cfg.feePerWrite1kb = write1Kb
  | .contractHistoricalDataV0 historical1Kb => cfg.feePerHistorical1kb = historical1Kb
  | .contractEventsV0 contractEvents1Kb _ => cfg.feePerContractEvent1kb = contractEvents1Kb
  | .contractBandwidthV0 txSize1Kb _ => cfg.feePerTransactionSize1kb = txSize1Kb
  | .other _ _ => False

section

variable (content : LedgerKey → Option EntryWithLiveUntil)

/-- The setting that a content holds under a setting's key. -/
def settingAt (id : ConfigSettingId) : Option ConfigSettingEntry :=
  (content (.configSetting id)).bind fun found =>
    match found.1.data with
    | .configSetting setting => some setting
    | _ => none

/-- The key of the setting holds a setting of its own kind. -/
def HoldsOwn (id : ConfigSettingId) : Prop :=
  (settingAt content id).bind (·.feeKind) = some id

/-- The key of the setting holds one of the six fee settings. -/
def HoldsFee (id : ConfigSettingId) : Prop :=
  ∃ kind, (settingAt content id).bind (·.feeKind) = some kind

/-- A schedule that resolves shows, for each of the six keys, the rates of the
setting of its own kind that lies under it; a content in which one of the keys
has no setting of its own kind is refused. -/
structure CompleteOrRefused (outcome : Except Panic (Except FeeError FeeConfiguration)) :
    Prop where
  complete : ∀ cfg, outcome = .ok (.ok cfg) → ∀ id ∈ feeSettings,
    ∃ setting, settingAt content id = some setting ∧ setting.feeKind = some id ∧ cfg.Shows setting
  refused : (∃ id ∈ feeSettings, ¬HoldsOwn content id) → ∃ e, outcome = .ok (.error e)

end

section

variable {content : LedgerKey → Option EntryWithLiveUntil} {cfg cfg' : FeeConfiguration}
  {id : ConfigSettingId}

theorem holdsOwn_iff :
    HoldsOwn content id ↔
      ∃ setting, settingAt content id = some setting ∧ setting.feeKind = some id := by
  unfold HoldsOwn
  exact Option.bind_eq_some_iff

theorem settingAt_eq_some {setting : ConfigSettingEntry} :
    settingAt content id = some setting ↔
      ∃ found, content (.configSetting id) = some found ∧
        found.1.data = .configSetting setting := by
  unfold settingAt
  rw [Option.bind_eq_some_iff]
  refine exists_congr fun found => and_congr_right fun _ => ?_
  cases found.1.data <;> simp

theorem holdsFee_iff :
    HoldsFee content id ↔
      ∃ setting kind, settingAt content id = some setting ∧ setting.feeKind = some kind := by
  unfold HoldsFee
  simp only [Option.bind_eq_some_iff]
  exact ⟨fun ⟨kind, setting, held⟩ => ⟨setting, kind, held⟩,
    fun ⟨setting, kind, held⟩ => ⟨kind, setting, held⟩⟩

/-! ## One setting -/

theorem shows_record {setting : ConfigSettingEntry} {kind : ConfigSettingId}
    (fee : setting.feeKind = some kind) : (cfg.record setting).Shows setting := by
  cases setting with
  | other otherId body => cases fee
  | contractLedgerCostV0 diskReadEntry writeEntry diskRead1Kb body => exact ⟨rfl, rfl, rfl⟩
  | _ => exact rfl

/-- Recording a setting leaves the rates of the other kinds alone. -/
theorem shows_record_of_ne {setting other : ConfigSettingEntry}
    (kinds : other.feeKind ≠ setting.feeKind) (shown : cfg.Shows other) :
    (cfg.record setting).Shows other := by
  cases setting <;> cases other <;> first | exact shown | exact absurd rfl kinds

theorem value_applySetting_of_fee {setting : ConfigSettingEntry} {kind : ConfigSettingId}
    (held : settingAt content id = some setting) (fee : setting.feeKind = some kind) :
    (applySetting id cfg).run.value content = .ok (cfg.record setting) := by
  obtain ⟨⟨⟨seq, data, ext⟩, liveUntil⟩, found, is⟩ := settingAt_eq_some.mp held
  change data = _ at is
  subst is
  rw [applySetting, ExceptT.run, Prog.value_ask, found]
  cases setting with
  | other otherId body => cases fee
  | _ => rfl

theorem value_applySetting_of_not_fee (notFee : ¬HoldsFee content id) :
    ∃ e, (applySetting id cfg).run.value content = .error e := by
  rw [applySetting, ExceptT.run, Prog.value_ask]
  rcases found : content (.configSetting id) with _ | ⟨⟨seq, data, ext⟩, liveUntil⟩
  · exact ⟨_, rfl⟩
  · cases data with
    | configSetting setting =>
        have held : settingAt content id = some setting := settingAt_eq_some.mpr ⟨_, found, rfl⟩
        cases setting with
        | other otherId body => exact ⟨_, rfl⟩
        | _ => exact absurd (holdsFee_iff.mpr ⟨_, _, held, rfl⟩) notFee
    | _ => exact ⟨_, rfl⟩

/-! ## The six settings -/

/-- Where every key holds a fee setting the schedule resolves. -/
theorem exists_value_applySettings {ids : List ConfigSettingId}
    (fees : ∀ id ∈ ids, HoldsFee content id) (cfg : FeeConfiguration) :
    ∃ cfg', (applySettings ids cfg).value content = .ok cfg' := by
  induction ids generalizing cfg with
  | nil => exact ⟨cfg, rfl⟩
  | cons id ids ih =>
      obtain ⟨setting, kind, held, fee⟩ := holdsFee_iff.mp (fees id (.head _))
      rw [applySettings, Prog.value_bind, value_applySetting_of_fee held fee]
      exact ih (fun other mem => fees other (.tail _ mem)) _

/-- Where one key does not it is refused. -/
theorem exists_error_applySettings {ids : List ConfigSettingId} (mem : id ∈ ids)
    (notFee : ¬HoldsFee content id) (cfg : FeeConfiguration) :
    ∃ e, (applySettings ids cfg).value content = .error e := by
  induction ids generalizing cfg with
  | nil => cases mem
  | cons first ids ih =>
      rw [applySettings, Prog.value_bind]
      by_cases fees : HoldsFee content first
      · obtain ⟨setting, kind, held, fee⟩ := holdsFee_iff.mp fees
        rw [value_applySetting_of_fee held fee]
        rcases List.mem_cons.mp mem with rfl | mem
        · exact absurd fees notFee
        · exact ih mem _
      · obtain ⟨e, failed⟩ := @value_applySetting_of_not_fee content cfg first fees
        rw [failed]
        exact ⟨e, rfl⟩

/-- Where every key holds a setting of its own kind, the schedule shows the rates
of each, and what it showed of the kinds not resolved it still shows. -/
theorem shows_of_own {ids : List ConfigSettingId} (distinct : ids.Nodup)
    (own : ∀ id ∈ ids, HoldsOwn content id)
    (resolved : (applySettings ids cfg).value content = .ok cfg') :
    (∀ id ∈ ids, ∃ setting, settingAt content id = some setting ∧ setting.feeKind = some id ∧
        cfg'.Shows setting) ∧
      ∀ other, (∀ id ∈ ids, other.feeKind ≠ some id) → cfg.Shows other → cfg'.Shows other := by
  induction ids generalizing cfg with
  | nil =>
      cases resolved
      exact ⟨nofun, fun _ _ shown => shown⟩
  | cons id ids ih =>
      obtain ⟨notMem, distinct⟩ := List.nodup_cons.mp distinct
      obtain ⟨setting, held, fee⟩ := holdsOwn_iff.mp (own id (.head _))
      rw [applySettings, Prog.value_bind, value_applySetting_of_fee held fee] at resolved
      obtain ⟨shown, kept⟩ := ih distinct (fun other mem => own other (.tail _ mem)) resolved
      refine ⟨fun other mem => ?_, fun other kinds before => ?_⟩
      · rcases List.mem_cons.mp mem with rfl | mem
        · refine ⟨setting, held, fee, kept setting (fun later mem same => ?_) (shows_record fee)⟩
          rw [fee] at same
          cases same
          exact notMem mem
        · exact shown other mem
      · refine kept other (fun later mem => kinds later (.tail _ mem)) ?_
        apply shows_record_of_ne _ before
        rw [fee]
        exact kinds id (.head _)

/-- **Complete or refused.**  On a source that shows `content` under the six
keys, resolving the schedule keeps to this exactly if each key holds a setting
of its own kind, or some key holds none of the six fee settings. -/
theorem completeOrRefused_iff {X : Xdr} {client : RpcClient} {upstream : Upstream}
    (fixed : client.Fixed upstream) (s : RpcSnapshotSource X)
    (content : LedgerKey → Option EntryWithLiveUntil)
    (shows : ∀ key ∈ feeKeys, s.view upstream key = some (content key)) :
    CompleteOrRefused content (s.read client fetchFeeConfiguration.run).1 ↔
      (∀ id ∈ feeSettings, HoldsOwn content id) ∨ ∃ id ∈ feeSettings, ¬HoldsFee content id := by
  have ran := RpcSnapshotSource.read_eq_value (s := s) fixed fetchFeeConfiguration.run
    fun key mem => shows key (mem_feeKeys_of_asked mem)
  rw [ran, fetchFeeConfiguration_eq]
  constructor
  · intro holds
    by_cases missing : ∃ id ∈ feeSettings, ¬HoldsFee content id
    · exact .inr missing
    · have fees : ∀ id ∈ feeSettings, HoldsFee content id :=
        fun id mem => by_contra fun notFee => missing ⟨id, mem, notFee⟩
      obtain ⟨cfg, resolved⟩ := exists_value_applySettings fees {}
      refine .inl fun id mem => ?_
      rw [resolved] at holds
      obtain ⟨setting, held, fee, -⟩ := holds.complete cfg rfl id mem
      exact holdsOwn_iff.mpr ⟨setting, held, fee⟩
  · rintro (own | ⟨id, mem, notFee⟩)
    · refine ⟨fun cfg resolved => ?_, fun ⟨id, mem, foreign⟩ => absurd (own id mem) foreign⟩
      exact (shows_of_own (by decide) own (Except.ok.inj resolved)).1
    · obtain ⟨e, failed⟩ := exists_error_applySettings mem notFee {}
      rw [failed]
      exact ⟨fun cfg resolved => (by cases resolved), fun _ => ⟨e, rfl⟩⟩

end

namespace Sample

/-- What a source shows under each key. -/
def shownBy (server : Server xdr) (key : LedgerKey) : Option EntryWithLiveUntil :=
  (server.worker.env.source.cached key).join

/-- The fork after a compute setting was written under the key of the bandwidth setting. -/
def misfiled : Server xdr :=
  (feeServer.step world (.setLedgerEntry (.configSetting .contractBandwidthV0)
    ⟨2, .configSetting (.contractComputeV0 ⟨0, 0, 7, 0⟩), .v0⟩ none)).2

end Sample

open Sample in
/-- The rate of the compute setting is the one stored under the bandwidth key,
and the bandwidth rate is left at its default. -/
theorem misfiled_setting_resolves :
    (∃ cfg, (misfiled.worker.env.source.read world.client fetchFeeConfiguration.run).1 =
        .ok (.ok cfg) ∧
      cfg.feePerInstructionIncrement = 7 ∧ cfg.feePerTransactionSize1kb = 0) ∧
    ¬CompleteOrRefused (shownBy misfiled)
      (misfiled.worker.env.source.read world.client fetchFeeConfiguration.run).1 := by
  refine ⟨⟨_, rfl, rfl, rfl⟩, fun holds => ?_⟩
  obtain ⟨setting, held, kind, -⟩ := holds.complete _ rfl .contractBandwidthV0 (by decide)
  cases held
  cases kind

open Sample in
theorem completeOrRefused_iff_wellFiled :
    CompleteOrRefused (shownBy feeServer)
      (feeServer.worker.env.source.read world.client fetchFeeConfiguration.run).1 :=
  (completeOrRefused_iff fixed feeServer.worker.env.source (shownBy feeServer)
    (by simp only [feeKeys, feeSettings, List.map_cons, List.map_nil, List.forall_mem_cons]
        exact ⟨rfl, rfl, rfl, rfl, rfl, rfl, List.forall_mem_nil _⟩)).mpr
    (.inl (by
      simp only [feeSettings, List.forall_mem_cons]
      exact ⟨rfl, rfl, rfl, rfl, rfl, rfl, List.forall_mem_nil _⟩))

end SorobanFork
