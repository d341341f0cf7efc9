import SorobanFork.Sample
import SorobanFork.Server.Effects

/-!
# Which account a send consumes a sequence number from

A send bumps the account that `extractInvokeOp` returns: the operation's own
source if it has one.  A sequence number belongs to the account that sent the
transaction, so the two agree exactly when the operation has no source of its
own or one that stands for the same account (`consumesSeq_iff`).
-/

namespace SorobanFork

open Lib

/-- The transaction inside an envelope: of a fee bump, the inner one. -/
def TransactionEnvelope.innerTx : TransactionEnvelope → Option Transaction
  | .txV0 _ => none
  | .tx v1 => some v1.tx
  | .txFeeBump fb => some fb.tx.innerTx.tx

/-- The sequence number an account entry carries. -/
def LedgerEntry.seqNum (entry : LedgerEntry) : Option Int64 :=
  match entry.data with
  | .account account => some account.seqNum
  | _ => none

/-- The sequence number of an account in a map of what is known of each key. -/
def seqNumAt (known : LedgerKey → Option (Option EntryWithLiveUntil)) (id : AccountId) :
    Option Int64 :=
  (known (.account id)).join.bind fun found => found.1.seqNum

/-- A transaction consumed a sequence number of `account` and of no other:
`before` is the source it met, `left` what the writes of the invocation left,
and `after` the source after the whole command. -/
def ConsumesSeq {X : Xdr} (client : RpcClient) (account : AccountId)
    (result : Except String ScVal) (before left after : RpcSnapshotSource X) : Prop :=
  match result with
  | .ok _ =>
    seqNumAt after.cached account = (seqNumAt left.cached account).map (· + 1) ∧
      ∀ other, other ≠ account → seqNumAt after.cached other = seqNumAt left.cached other
  | .error _ =>
    (∀ other, (before.cached (.account other)).isSome →
      seqNumAt after.cached other = seqNumAt before.cached other) ∧
    ∀ upstream, client.Fixed upstream → ∀ other,
      seqNumAt (after.view upstream) other = seqNumAt (before.view upstream) other

/-- The operation of a transaction leaves its source to the transaction, or
names the same account. -/
def OpSourceIsTxSource (tx : Transaction) : Prop :=
  ∀ op ∈ tx.operations, ∀ source, op.sourceAccount = some source →
    source.accountId = tx.sourceAccount.accountId

theorem LedgerEntry.seqNum_bumpSeq (entry : LedgerEntry) :
    entry.bumpSeq.seqNum = entry.seqNum.map (· + 1) := by
  cases data : entry.data <;> simp only [bumpSeq, seqNum, data, Option.map_some, Option.map_none]

section

variable {X : Xdr} {world : World X} {s : RpcSnapshotSource X}

/-- A bump advances the sequence number of its account by one. -/
theorem seqNumAt_bumpAccountSeq_self (id : AccountId) :
    seqNumAt (s.bumpAccountSeq id).2.cached id = (seqNumAt s.cached id).map (· + 1) := by
  rw [RpcSnapshotSource.cached_bumpAccountSeq, seqNumAt, Function.update_self, seqNumAt]
  rcases s.cached (.account id) with _ | _ | ⟨entry, liveUntil⟩
  · rfl
  · rfl
  · exact entry.seqNum_bumpSeq

theorem seqNumAt_bumpAccountSeq_of_ne {id other : AccountId} (ne : other ≠ id) :
    seqNumAt (s.bumpAccountSeq id).2.cached other = seqNumAt s.cached other := by
  have otherKey : LedgerKey.account other ≠ .account id := fun same =>
    ne (LedgerKey.account.inj same)
  rw [RpcSnapshotSource.cached_bumpAccountSeq, seqNumAt, Function.update_of_ne otherKey, seqNumAt]

/-- What work that only reads leaves of the sequence numbers. -/
theorem seqNumAt_of_onlyReads {env env' : ForkedEnv X}
    (reads : ForkedEnv.OnlyReads world.client env env') :
    (∀ other, (env.source.cached (.account other)).isSome →
      seqNumAt env'.source.cached other = seqNumAt env.source.cached other) ∧
    ∀ upstream, world.client.Fixed upstream → ∀ other,
      seqNumAt (env'.source.view upstream) other = seqNumAt (env.source.view upstream) other := by
  constructor
  · intro other held
    obtain ⟨value, held⟩ := Option.isSome_iff_exists.mp held
    rw [seqNumAt, seqNumAt, held, reads.extends_cached _ _ held]
  · intro upstream fixed other
    rw [reads.view upstream fixed]

/-- The operation is taken from the inner transaction, whatever the envelope around it. -/
theorem extractInvokeOp_innerTx {wire : Wire X} {envelope : TransactionEnvelope} {tx : Transaction}
    (inner : envelope.innerTx = some tx) :
    extractInvokeOp wire envelope = extractInvokeOp wire (.tx ⟨tx, []⟩) := by
  cases envelope with
  | txV0 xdr => cases inner
  | tx v1 =>
      cases inner
      rfl
  | txFeeBump fb =>
      cases inner
      rfl

/-- The account an accepted envelope is executed for, and its transaction. -/
theorem extractInvokeOp_source {wire : Wire X} {envelope : TransactionEnvelope}
    {hostFunction : HostFunction} {sourceAccount : AccountId}
    (accepted : extractInvokeOp wire envelope = .ok (hostFunction, sourceAccount)) :
    ∃ tx op, envelope.innerTx = some tx ∧ tx.operations = [op] ∧
      sourceAccount = (op.sourceAccount.getD tx.sourceAccount).accountId := by
  rcases inner : envelope.innerTx with _ | tx
  · cases envelope with
    | txV0 xdr => cases accepted
    | _ => cases inner
  · rw [extractInvokeOp_innerTx inner] at accepted
    simp only [extractInvokeOp] at accepted
    split at accepted
    · rename_i op single
      split at accepted
      · cases accepted
        exact ⟨tx, op, rfl, single, rfl⟩
      · cases accepted
    · cases accepted

/-- The executed account is the transaction's own exactly when the operation
does not name another. -/
theorem source_eq_iff {wire : Wire X} {envelope : TransactionEnvelope}
    {hostFunction : HostFunction} {sourceAccount : AccountId} {tx : Transaction}
    (accepted : extractInvokeOp wire envelope = .ok (hostFunction, sourceAccount))
    (inner : envelope.innerTx = some tx) :
    sourceAccount = tx.sourceAccount.accountId ↔ OpSourceIsTxSource tx := by
  obtain ⟨tx', op, inner', single, rfl⟩ := extractInvokeOp_source accepted
  obtain rfl : tx' = tx := Option.some.inj (inner'.symm.trans inner)
  rw [OpSourceIsTxSource, single]
  cases source : op.sourceAccount with
  | none => simp [source]
  | some muxed => simp [source]

/-- A decoded request executes the envelope it carries. -/
theorem decodeSendTransaction_ok {wire : Wire X} {params : wire.Json} {request : SendRequest X}
    {envelope : TransactionEnvelope} (accepted : decodeSendTransaction wire params = .ok request)
    (parsed : X.envelope.fromXdr request.envelopeBytes = some envelope) :
    extractInvokeOp wire envelope = .ok (request.hostFunction, request.sourceAccount) := by
  obtain ⟨fields, -, accepted⟩ := except_bind_eq_ok.mp accepted
  obtain ⟨bytes, -, accepted⟩ := except_bind_eq_ok.mp accepted
  obtain ⟨env, read, accepted⟩ := except_bind_eq_ok.mp accepted
  obtain ⟨⟨hostFunction, sourceAccount⟩, extracted, accepted⟩ := except_bind_eq_ok.mp accepted
  cases accepted
  unfold decodeXdr at read
  rw [parsed] at read
  cases read
  exact extracted

/-- **Whose sequence number is consumed.**  An executed send consumes one of the
transaction's source account exactly when the invocation fails, or the operation
does not name another account as its source. -/
theorem consumesSeq_iff {wire : Wire X} {params : wire.Json} {request : SendRequest X}
    {envelope : TransactionEnvelope} {tx : Transaction}
    (accepted : decodeSendTransaction wire params = .ok request)
    (parsed : X.envelope.fromXdr request.envelopeBytes = some envelope)
    (inner : envelope.innerTx = some tx) {server server' : Server X} {reply : SendReply X}
    (executed : server.step world (.sendTransaction request.envelopeBytes request.hostFunction
      request.sourceAccount) = (.ok reply, server'))
    {invocation : Invocation X} {mid : ForkedEnv X}
    (ran : server.worker.env.read world (world.invoke server.worker.env.ledger
      request.hostFunction request.sourceAccount) = (.ok invocation, mid))
    (keptAccount : ∀ value, invocation.txResult = .ok value →
      (seqNumAt (mid.source.applyChanges invocation.changesToApply).2.cached
        tx.sourceAccount.accountId).isSome) :
    ConsumesSeq world.client tx.sourceAccount.accountId reply.receipt.result
        server.worker.env.source (mid.source.applyChanges invocation.changesToApply).2
        server'.worker.env.source ↔
      (∃ message, invocation.txResult = .error message) ∨ OpSourceIsTxSource tx := by
  have bumped := source_eq_iff (decodeSendTransaction_ok accepted parsed) inner
  obtain ⟨-, w, stepped, rfl⟩ := Server.step_ok_iff.mp executed
  obtain ⟨invocation', mid', ran', reads, result, outcome⟩ :=
    Worker.step_sendTransaction_ok stepped
  rw [ran] at ran'
  cases ran'
  rw [result]
  rcases outcome with ⟨⟨message, failed⟩, same⟩ | ⟨⟨value, succeeded⟩, applied⟩
  · rw [failed, same]
    exact ⟨fun _ => .inl ⟨message, rfl⟩, fun _ => seqNumAt_of_onlyReads reads⟩
  · obtain ⟨n, left⟩ := Option.isSome_iff_exists.mp (keptAccount value succeeded)
    rw [succeeded, applied]
    simp only [reduceCtorEq, exists_false, false_or]
    rw [← bumped]
    constructor
    · rintro ⟨advanced, -⟩
      by_contra other
      have still := seqNumAt_bumpAccountSeq_of_ne
        (s := (mid.source.applyChanges invocation.changesToApply).2) (Ne.symm other)
      have fixed : some n = some (n + 1) := by
        rw [← left, ← still]
        exact advanced.trans (by rw [left]; rfl)
      exact absurd (Option.some.inj fixed) (by simp)
    · intro own
      refine ⟨?_, fun other ne => ?_⟩
      · rw [← own]
        exact seqNumAt_bumpAccountSeq_self _
      · rw [← own] at ne
        exact seqNumAt_bumpAccountSeq_of_ne ne

end

/-! ## A run -/

namespace Sample

/-- Accounts 1 and 2, with sequence numbers 5 and 7. -/
def twoAccounts : Server xdr := server [accountEntry 1 5, accountEntry 2 7]

/-- A transaction of account 1 whose operation names account 2. -/
def overrideEnvelope : TransactionEnvelope :=
  envelope 1 (some (.ed25519 (bytes32 2))) (call "pay" [])

def overrideCommand : Command xdr :=
  .sendTransaction (.envelope overrideEnvelope) (call "pay" []) (account 2)

end Sample

open Sample in
/-- The sequence number comes from the operation's account, not from the
transaction's. -/
theorem send_bumps_operation_source :
    decodeSendTransaction (wire [("tx", .envelope overrideEnvelope)]) (.sendTransaction ⟨"tx"⟩) =
        .ok ⟨.envelope overrideEnvelope, call "pay" [], account 2, "tx"⟩ ∧
      seqNumAt twoAccounts.worker.env.source.cached (account 1) = some 5 ∧
      ¬ConsumesSeq world.client (account 1) (.ok .void) twoAccounts.worker.env.source
        twoAccounts.worker.env.source (twoAccounts.step world overrideCommand).2.worker.env.source ∧
      (seqNumAt (twoAccounts.step world overrideCommand).2.worker.env.source.cached (account 1),
        seqNumAt (twoAccounts.step world overrideCommand).2.worker.env.source.cached (account 2)) =
        (some 5, some 8) := by
  refine ⟨rfl, by decide, ?_, by decide⟩
  rintro ⟨advanced, -⟩
  exact absurd advanced (by decide)

namespace Sample

/-- A transaction of account 1 whose operation has no source. -/
def ownEnvelope : TransactionEnvelope := envelope 1 none (call "pay" [])

def ownRequest : SendRequest xdr := ⟨.envelope ownEnvelope, call "pay" [], account 1, "tx"⟩

end Sample

open Sample in
theorem consumesSeq_ownEnvelope :
    ConsumesSeq world.client (account 1) (.ok .void) twoAccounts.worker.env.source
        twoAccounts.worker.env.source
        (twoAccounts.step world (.sendTransaction (.envelope ownEnvelope) (call "pay" [])
          (account 1))).2.worker.env.source ↔
      (∃ message, (outcome (.ok .void) []).txResult = .error message) ∨
        OpSourceIsTxSource ⟨.ed25519 (bytes32 1), 100, 1, [], [],
          [⟨none, .invokeHostFunction ⟨call "pay" [], []⟩⟩], .v0⟩ :=
  @consumesSeq_iff xdr world (wire [("tx", .envelope ownEnvelope)]) (.sendTransaction ⟨"tx"⟩)
    ownRequest ownEnvelope _ rfl rfl rfl twoAccounts _ _ rfl (outcome (.ok .void) [])
    twoAccounts.worker.env rfl (fun _ _ => by decide)

end SorobanFork
