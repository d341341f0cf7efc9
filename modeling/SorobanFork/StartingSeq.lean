import SorobanFork.ClassicBalance
import SorobanFork.RebuiltAccounts
import SorobanFork.SeqNum
import SorobanFork.Server.Live

/-!
# The sequence numbers accounts start with

Two places create accounts: a build mints its test accounts, and a `fork_setBalance`
in the native asset creates the account it does not find.  Both write `initialSeq` of
the ledger, its sequence in the upper half of a signed word.  `toInt_initialSeq` says
what number that is, and `created_account_starts_iff` that it is a start for accounts of
that ledger, in the sense of `StartsAt`, exactly if the sequence is below `2 ^ 31`.
-/

namespace SorobanFork

open Lib

/-- The number is where the sequence numbers of the accounts of a ledger start:
the ledger sequence times `2 ^ 32`, above those of all earlier ledgers, and with
`2 ^ 32 - 1` increments that stay below the start of the next ledger. -/
structure StartsAt (sequence : UInt32) (seqNum : Int64) : Prop where
  value : seqNum.toInt = sequence.toNat * 2 ^ 32
  nonneg : 0 ≤ seqNum.toInt
  increasing : ∀ earlier < sequence, (initialSeq earlier).toInt < seqNum.toInt
  room : ∀ bumps : Nat, bumps ≤ 2 ^ 32 - 1 →
    ((· + 1)^[bumps] seqNum).toInt = seqNum.toInt + bumps ∧
      ((· + 1)^[bumps] seqNum).toInt < (sequence.toNat + 1) * 2 ^ 32

section Numbers

variable {sequence : UInt32} {seqNum : Int64}

/-- The sequence times `2 ^ 32`, wrapped to a signed word. -/
theorem toInt_initialSeq (sequence : UInt32) :
    (initialSeq sequence).toInt = (sequence.toNat * 2 ^ 32 : Int).bmod (2 ^ 64) := by
  have shifted : (initialSeq sequence).toBitVec = sequence.toUInt64.toBitVec <<< 32 := rfl
  rw [Int64.toInt, shifted, BitVec.toInt_shiftLeft, UInt64.toNat_toBitVec, UInt32.toNat_toUInt64,
    Nat.shiftLeft_eq, Int.natCast_mul]
  rfl

theorem toInt_initialSeq_of_lt (fits : sequence.toNat < 2 ^ 31) :
    (initialSeq sequence).toInt = sequence.toNat * 2 ^ 32 := by
  rw [toInt_initialSeq]
  exact Int.bmod_eq_of_le (by omega) (by omega)

/-- Past the middle of the range the sign bit is set. -/
theorem toInt_initialSeq_of_ge (overflows : 2 ^ 31 ≤ sequence.toNat) :
    (initialSeq sequence).toInt = sequence.toNat * 2 ^ 32 - 2 ^ 64 := by
  have bound := sequence.toNat_lt
  rw [toInt_initialSeq, ← Int.sub_bmod_right]
  exact Int.bmod_eq_of_le (by omega) (by omega)

/-- Increments are exact as long as they stay in range. -/
theorem toInt_iterate_succ (bumps : Nat) (fits : seqNum.toInt + bumps < 2 ^ 63) :
    ((· + 1)^[bumps] seqNum).toInt = seqNum.toInt + bumps := by
  induction bumps with
  | zero => exact (Int.add_zero _).symm
  | succ bumps ih =>
      have lower := seqNum.le_toInt
      push_cast at fits
      rw [Function.iterate_succ_apply', Int64.toInt_add, ih (by omega), Int64.toInt_one]
      push_cast
      rw [← Int.add_assoc]
      exact Int.bmod_eq_of_le (by omega) (by omega)

/-- What is written is a start exactly in the lower half of the ledger sequences. -/
theorem startsAt_initialSeq_iff : StartsAt sequence (initialSeq sequence) ↔
    sequence.toNat < 2 ^ 31 := by
  constructor
  · intro starts
    by_contra overflows
    have negative := toInt_initialSeq_of_ge (Nat.le_of_not_lt overflows)
    have nonneg := starts.nonneg
    have bound := sequence.toNat_lt
    omega
  · intro fits
    have value := toInt_initialSeq_of_lt fits
    refine ⟨value, by omega, fun earlier before => ?_, fun bumps most => ?_⟩
    · have before : earlier.toNat < sequence.toNat := before
      rw [value, toInt_initialSeq_of_lt (before.trans fits)]
      omega
    · rw [toInt_iterate_succ bumps (by omega)]
      exact ⟨rfl, by omega⟩

end Numbers

/-! ## The two places -/

section

variable {X : Xdr} {world : World X} {wire : Wire X}

/-- A fork reports the ledger it was pinned to, and mints its accounts at the one it reports. -/
theorem ForkConfig.ledgerSequence_of_build {format : SnapshotFormat} {site : Site}
    {disk : Disk format} {config : ForkConfig} {env : ForkedEnv X}
    (built : config.build format site disk = .ok env) :
    env.ledgerSequence = env.forkLedgerSequence ∧
      ∀ pinned, config.pinnedLedger = some pinned → env.ledgerSequence = pinned := by
  obtain ⟨-, -, built⟩ := except_bind_eq_ok.mp built
  obtain ⟨latest, -, built⟩ := except_bind_eq_ok.mp built
  obtain ⟨⟨networkId, passphrase⟩, -, built⟩ := except_bind_eq_ok.mp built
  obtain ⟨-, -, built⟩ := except_bind_eq_ok.mp built
  cases built
  refine ⟨rfl, fun pinned pins => ?_⟩
  show config.pinnedLedger.getD latest.sequence = pinned
  rw [pins, Option.getD_some]

/-- The sequence number of an account that is held as fresh. -/
theorem seqNumAt_of_fresh {known : LedgerKey → Option (Option EntryWithLiveUntil)}
    {id : AccountId} {balance : Int64} {sequence lastModified : UInt32}
    (held : known (.account id) =
      some (some (⟨lastModified, .account (.fresh id balance (initialSeq sequence)), .v0⟩, none))) :
    seqNumAt known id = some (initialSeq sequence) := by
  rw [seqNumAt, held]
  rfl

/-- A native balance that is set for an account the fork does not have creates it. -/
theorem run_setClassicBalance_of_absent {server : Server X} {id : AccountId} {amount : Int64}
    (alive : server.alive = true)
    (absent : server.worker.env.source.answer world.client (.account id) = .ok none) :
    Prog.run (Server.step world) (setClassicBalance wire ⟨id, .native, amount⟩) server =
      (.ok (.ok (.setBalance ⟨true, server.ledgerSequence⟩)),
        server.withSource ((server.worker.env.source.get world.client (.account id)).2.write
          ⟨.account id, ⟨server.ledgerSequence,
            .account (.fresh id amount (initialSeq server.ledgerSequence)), .v0⟩, none⟩)) := by
  refine (run_send (step_getLedgerEntries alive absent)).trans ?_
  exact run_send (step_write (Server.alive_withSource alive _)
    ⟨.account id, ⟨server.ledgerSequence,
      .account (.fresh id amount (initialSeq server.ledgerSequence)), .v0⟩, none⟩)

end

/-- An account is created at a ledger sequence, and this is what the fork then holds as its
sequence number.  The sequence is the one the fork reports, which may be pinned or reached
by closing ledgers. -/
inductive Creates : UInt32 → Option Int64 → Prop
  | minted {X : Xdr} {format : SnapshotFormat} {site : Site} {disk : Disk format}
      {config : ForkConfig} {env : ForkedEnv X} {a : TestAccount}
      (built : config.build format site disk = .ok env) (mem : a ∈ env.testAccounts) :
      Creates env.ledgerSequence (seqNumAt env.source.cached a.accountId)
  | setBalance {X : Xdr} {world : World X} {wire : Wire X} {params : wire.Json} {id : AccountId}
      {amount : Int64} {parsed : SetBalanceParams} {server server' : Server X}
      {response : Response} (asks : AsksBalance wire params id .native amount parsed)
      (absent : server.worker.env.source.answer world.client (.account id) = .ok none)
      (served : serve world wire "fork_setBalance" params server = (.result response, server')) :
      Creates server.ledgerSequence (seqNumAt server'.worker.env.source.cached id)

/-- Both places write the same. -/
theorem Creates.written {sequence : UInt32} {written : Option Int64}
    (created : Creates sequence written) : written = some (initialSeq sequence) := by
  cases created with
  | @minted X format site disk config env a built mem =>
      have mints : config.Mints site (.account a.accountId) :=
        ⟨a, (ForkConfig.build_eq_ok built).2.2 ▸ mem, .inl rfl⟩
      obtain ⟨minted, value, held⟩ := mints.cached_mintedAt built
      cases value
      rw [(ForkConfig.ledgerSequence_of_build built).1]
      exact seqNumAt_of_fresh held
  | @setBalance X world wire params id amount parsed server server' response asks absent served =>
      obtain ⟨asset, native, ran⟩ := run_setClassicBalance_of_served asks served
      cases native
      cases alive : server.alive with
      | false =>
          rw [setClassicBalance, run_send_of_dead alive] at ran
          cases ran
      | true =>
          rw [run_setClassicBalance_of_absent alive absent] at ran
          cases ran
          exact seqNumAt_of_fresh (RpcSnapshotSource.cached_write_self _ _)

/-- **The sequence numbers of created accounts.**  A minted account, and one that
`fork_setBalance` creates, has a sequence number an account of its ledger can start with
if and only if the ledger sequence is below `2 ^ 31`. -/
theorem created_account_starts_iff {sequence : UInt32} {written : Option Int64}
    (created : Creates sequence written) :
    (∃ seqNum, written = some seqNum ∧ StartsAt sequence seqNum) ↔ sequence.toNat < 2 ^ 31 := by
  rw [created.written]
  constructor
  · intro ⟨seqNum, same, starts⟩
    obtain rfl := Option.some.inj same
    exact startsAt_initialSeq_iff.mp starts
  · intro fits
    exact ⟨_, rfl, startsAt_initialSeq_iff.mpr fits⟩

/-! ## Past the middle of the range -/

namespace Sample

/-- The fork built at a pinned ledger. -/
def pinnedAt (sequence : UInt32) : ForkedEnv xdr :=
  { forked (fun _ => none) with
    ledger := { ledgerInfo with timestamp := 4600, sequenceNumber := sequence }
    source := (RpcSnapshotSource.new .strict).preload
      (mintedEntries (generate site.publicKey 1) [] sequence)
    forkLedgerSequence := sequence }

theorem build_pinnedAt (sequence : UInt32) :
    { config with pinnedLedger := some sequence }.build snapshotFormat site (fun _ => none) =
      .ok (pinnedAt sequence) := rfl

/-- The fork after it closed the given number of ledgers. -/
def closed (ledgers : UInt32) : Server xdr :=
  (serve world (wire []) "fork_closeLedgers" (.closeLedgers ⟨some ledgers, none⟩) (server [])).2

/-- After that, account 1 is given a balance. -/
def created (ledgers : UInt32) : Server xdr :=
  (serve world (wire []) "fork_setBalance" (.setBalance ⟨"G1", "77", none⟩) (closed ledgers)).2

end Sample

open Sample in
/-- An account minted at a ledger pinned to `2 ^ 31`, and one created after closing as many
ledgers as there are, have negative sequence numbers. -/
theorem created_accounts_are_negative :
    { config with pinnedLedger := some 2147483648 }.build snapshotFormat site (fun _ => none) =
        .ok (pinnedAt 2147483648) ∧
      seqNumAt (pinnedAt 2147483648).source.cached (account 0) =
        some (-9223372036854775808) ∧
      ¬StartsAt 2147483648 (-9223372036854775808) ∧
      (closed 4294967295).ledgerSequence = 4294967295 ∧
      seqNumAt (created 4294967295).worker.env.source.cached (account 1) = some (-4294967296) ∧
      ¬StartsAt 4294967295 (-4294967296) := by
  refine ⟨rfl, by decide, fun starts => ?_, by decide, by decide, fun starts => ?_⟩
  · exact absurd starts.nonneg (by decide)
  · exact absurd starts.nonneg (by decide)

open Sample in
theorem created_account_starts_iff_inRange :
    ((∃ seqNum, seqNumAt (pinnedAt 2147483647).source.cached (account 0) = some seqNum ∧
      StartsAt 2147483647 seqNum) ↔ (2147483647 : UInt32).toNat < 2 ^ 31) ∧
    ((∃ seqNum, seqNumAt (created 7).worker.env.source.cached (account 1) = some seqNum ∧
      StartsAt (closed 7).ledgerSequence seqNum) ↔ (closed 7).ledgerSequence.toNat < 2 ^ 31) :=
  ⟨created_account_starts_iff (.minted (build_pinnedAt 2147483647) (.head _)),
    created_account_starts_iff (@Creates.setBalance xdr world (wire [])
      (.setBalance ⟨"G1", "77", none⟩) (account 1) 77 ⟨"G1", "77", none⟩ (closed 7) (created 7)
      (.setBalance ⟨true, 107⟩) ⟨rfl, rfl, trivial, rfl⟩ rfl rfl)⟩

end SorobanFork
