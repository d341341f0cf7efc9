import SorobanFork.Eager

/-!
# Inserted reads

Take two runs from one state, the second with reading commands inserted into the
first.  The inserted reads fill the cache, so the two caches drift apart; the
ledger both show is the same, and almost everything depends on that ledger only.

The exception is `bump_account_seq`, which advances an account only if its key
is cached.  So a read of an account before a send decides whether the send
advances its sequence number (`read_decides_bump`).  `reads_invisible` says that
this is the only way in which a read shows: it suffices that each successful
send bumps alike in the two runs (`BumpsAlike`).
-/

namespace SorobanFork

open Lib

/-- A reply with the fields blanked out that no run promises. -/
def observedReply {X : Xdr} (reply : Σ cmd : Command X, Except ActorError cmd.Reply) :
    Σ cmd : Command X, Except ActorError cmd.Reply :=
  ⟨reply.1, reply.2.map reply.1.observed⟩

/-- There is an account entry upstream. -/
def HoldsAccount (found : Option FetchedEntry) : Prop :=
  ∃ fetched account, found = some fetched ∧ fetched.entry.data = .account account

section

variable {X : Xdr}

/-- The invocation of a send runs and succeeds. -/
def Worker.Succeeds (world : World X) (hostFunction : HostFunction) (sourceAccount : AccountId)
    (w : Worker X) : Prop :=
  ∃ invocation value,
    (w.env.read world (world.invoke w.env.ledger hostFunction sourceAccount)).1 =
      .ok invocation ∧ invocation.txResult = .ok value

/-- A successful send finds its source account cached from both states or from
neither, or upstream has no account there. -/
def BumpsAlike (world : World X) (upstream : LedgerKey → Option FetchedEntry) (w w' : Worker X) :
    Command X → Prop
  | .sendTransaction _ hostFunction sourceAccount =>
    w.Succeeds world hostFunction sourceAccount →
      ((w.beforeBump world hostFunction sourceAccount).cached (.account sourceAccount)).isSome =
          ((w'.beforeBump world hostFunction sourceAccount).cached
            (.account sourceAccount)).isSome ∨
        ¬HoldsAccount (upstream (.account sourceAccount))
  | _ => True

variable {world : World X} {upstream : LedgerKey → Option FetchedEntry} {w w' : Worker X}
  {e : EagerWorker X}

/-- A reading command keeps the ledger a worker represents. -/
theorem Represents.stepReads (related : Represents upstream w e)
    (fixed : world.client.Fixed fun key => .ok (upstream key)) {cmd : Command X}
    (readOnly : cmd.ReadOnly) : Represents upstream (w.step world cmd).2 e := by
  obtain ⟨reads, receipts, -⟩ := Worker.step_onlyReads world w readOnly
  have kept := related.reads fixed reads
  exact ⟨kept.view, kept.ledger, kept.networkId, kept.protocolVersion, kept.passphrase,
    fun hash => by rw [receipts, related.receipts]⟩

/-- Where upstream has no account, bumping an account that is not cached would
change nothing in the ledger shown. -/
theorem Represents.bumpSeq_of_not_holdsAccount (related : Represents upstream w e)
    {sourceAccount : AccountId} (miss : w.env.source.cached (.account sourceAccount) = none)
    (noAccount : ¬HoldsAccount (upstream (.account sourceAccount))) :
    e.entries.bumpSeq sourceAccount = e.entries := by
  have shown := related.view (.account sourceAccount)
  rw [RpcSnapshotSource.view, overlay_of_none miss] at shown
  have upstreamShown : (upstream (.account sourceAccount)).map (·.withLiveUntil) =
      e.entries (.account sourceAccount) := Option.some.inj shown
  rw [LedgerMap.bumpSeq, Function.update_eq_self_iff, ← upstreamShown]
  cases found : upstream (.account sourceAccount) with
  | none => rfl
  | some fetched =>
      have unchanged : fetched.entry.bumpSeq = fetched.entry := by
        unfold LedgerEntry.bumpSeq
        split
        · rename_i account data
          exact absurd ⟨fetched, account, found, data⟩ noAccount
        · rfl
      simp only [Option.map_some, FetchedEntry.withLiveUntil, unchanged]

/-- A send bumps as the eager worker does, if it fails, or finds its source
account cached, or upstream has no account there. -/
theorem Represents.sends_bumped (related : Represents upstream w e)
    (fixed : world.client.Fixed fun key => .ok (upstream key)) (envelopeBytes : X.Buf)
    (hostFunction : HostFunction) (sourceAccount : AccountId)
    (bumps : w.Succeeds world hostFunction sourceAccount →
      ((w.beforeBump world hostFunction sourceAccount).cached (.account sourceAccount)).isSome ∨
        ¬HoldsAccount (upstream (.account sourceAccount))) :
    ∃ reply w', w.step world (.sendTransaction envelopeBytes hostFunction sourceAccount) =
        (.ok reply, w') ∧
      { reply with receipt := reply.receipt.observed } =
        (e.step world (.sendTransaction envelopeBytes hostFunction sourceAccount)).1 ∧
      Represents upstream w'
        (e.step world (.sendTransaction envelopeBytes hostFunction sourceAccount)).2 := by
  obtain ⟨mid, reply, w', ran, reads, stepped, same, outcome⟩ :=
    related.sends fixed envelopeBytes hostFunction sourceAccount
  refine ⟨reply, w', stepped, same, ?_⟩
  rcases outcome with ⟨-, after⟩ | ⟨⟨value, succeeded⟩, shown, after⟩
  · exact after
  · have before := bumps ⟨_, value, congrArg Prod.fst ran, succeeded⟩
    have written := (related.reads fixed reads).written
      (e.invocation world hostFunction sourceAccount).changesToApply
    rw [Worker.beforeBump, ran] at before
    suffices Represents upstream
        { w with
          env := mid.applied (e.invocation world hostFunction sourceAccount).changesToApply
            sourceAccount }
        { e with
          entries := (e.entries.applyChanges
            (e.invocation world hostFunction sourceAccount).changesToApply).bumpSeq
              sourceAccount } by
      have next := after _ this
      rwa [← shown] at next
    by_cases held : ((mid.source.applyChanges
        (e.invocation world hostFunction sourceAccount).changesToApply).2.cached
          (.account sourceAccount)).isSome
    · exact written.bumped (.inl held)
    · have miss := Option.not_isSome_iff_eq_none.mp held
      rw [written.bumpSeq_of_not_holdsAccount miss (before.resolve_left held), ForkedEnv.applied,
        RpcSnapshotSource.bumpAccountSeq_of_not_cached miss]
      exact written

/-- A successful send that does not find its source account cached leaves the
changes of the eager invocation, without the bump. -/
theorem Represents.sends_unbumped (related : Represents upstream w e)
    (fixed : world.client.Fixed fun key => .ok (upstream key)) (envelopeBytes : X.Buf)
    (hostFunction : HostFunction) (sourceAccount : AccountId)
    (succeeds : w.Succeeds world hostFunction sourceAccount)
    (miss : (w.beforeBump world hostFunction sourceAccount).cached (.account sourceAccount) =
      none) :
    ∃ reply w', w.step world (.sendTransaction envelopeBytes hostFunction sourceAccount) =
        (.ok reply, w') ∧
      { reply with receipt := reply.receipt.observed } =
        (e.step world (.sendTransaction envelopeBytes hostFunction sourceAccount)).1 ∧
      Represents upstream w'
        { (e.step world (.sendTransaction envelopeBytes hostFunction sourceAccount)).2 with
          entries := e.entries.applyChanges
            (e.invocation world hostFunction sourceAccount).changesToApply } := by
  obtain ⟨mid, reply, w', ran, reads, stepped, same, outcome⟩ :=
    related.sends fixed envelopeBytes hostFunction sourceAccount
  refine ⟨reply, w', stepped, same, ?_⟩
  obtain ⟨invocation, value, invoked, succeeded⟩ := succeeds
  rw [ran] at invoked
  obtain rfl := Except.ok.inj invoked
  rcases outcome with ⟨⟨message, failed⟩, -⟩ | ⟨-, -, after⟩
  · rw [failed] at succeeded
    cases succeeded
  · rw [Worker.beforeBump, ran] at miss
    refine after _ ?_
    rw [ForkedEnv.applied, RpcSnapshotSource.bumpAccountSeq_of_not_cached miss]
    exact (related.reads fixed reads).written _

/-- A worker whose invocation succeeds shows so to every worker it agrees with. -/
theorem Represents.succeeds_iff (related : Represents upstream w e)
    (fixed : world.client.Fixed fun key => .ok (upstream key)) (hostFunction : HostFunction)
    (sourceAccount : AccountId) :
    w.Succeeds world hostFunction sourceAccount ↔
      ∃ value, (e.invocation world hostFunction sourceAccount).txResult = .ok value := by
  obtain ⟨mid, ran, -⟩ := related.read fixed
    (world.invoke w.env.ledger hostFunction sourceAccount)
  rw [Worker.Succeeds, ran, related.ledger]
  constructor
  · rintro ⟨invocation, value, invoked, succeeded⟩
    obtain rfl := Except.ok.inj invoked
    exact ⟨value, succeeded⟩
  · rintro ⟨value, succeeded⟩
    exact ⟨_, value, rfl, succeeded⟩

/-- **The step lemma.**  A command given to two workers that show the same
ledger gets the same observed reply, and they show the same ledger after it. -/
theorem Represents.stepBoth (related : Represents upstream w e)
    (related' : Represents upstream w' e)
    (fixed : world.client.Fixed fun key => .ok (upstream key)) (cmd : Command X)
    (alike : BumpsAlike world upstream w w' cmd) :
    ∃ reply reply' v v' e', w.step world cmd = (.ok reply, v) ∧
      w'.step world cmd = (.ok reply', v') ∧ cmd.observed reply = cmd.observed reply' ∧
      Represents upstream v e' ∧ Represents upstream v' e' := by
  by_cases isSend : ∃ envelopeBytes hostFunction sourceAccount,
      cmd = .sendTransaction envelopeBytes hostFunction sourceAccount
  · obtain ⟨envelopeBytes, hostFunction, sourceAccount, rfl⟩ := isSend
    have succeeds : w'.Succeeds world hostFunction sourceAccount ↔
        w.Succeeds world hostFunction sourceAccount := by
      rw [related.succeeds_iff fixed, related'.succeeds_iff fixed]
    by_cases unbumped : w.Succeeds world hostFunction sourceAccount ∧
        (w.beforeBump world hostFunction sourceAccount).cached (.account sourceAccount) = none ∧
        (w'.beforeBump world hostFunction sourceAccount).cached (.account sourceAccount) = none
    · -- neither bumps
      obtain ⟨sent, miss, miss'⟩ := unbumped
      obtain ⟨reply, v, stepped, same, next⟩ :=
        related.sends_unbumped fixed envelopeBytes hostFunction sourceAccount sent miss
      obtain ⟨reply', v', stepped', same', next'⟩ :=
        related'.sends_unbumped fixed envelopeBytes hostFunction sourceAccount
          (succeeds.mpr sent) miss'
      exact ⟨reply, reply', v, v', _, stepped, stepped', same.trans same'.symm, next, next'⟩
    · -- both bump, or a bump makes no difference
      have bumps (sent : w.Succeeds world hostFunction sourceAccount) :
          (((w.beforeBump world hostFunction sourceAccount).cached
              (.account sourceAccount)).isSome ∧
            ((w'.beforeBump world hostFunction sourceAccount).cached
              (.account sourceAccount)).isSome) ∨
          ¬HoldsAccount (upstream (.account sourceAccount)) := by
        rcases alike sent with equal | noAccount
        · have held : ((w.beforeBump world hostFunction sourceAccount).cached
              (.account sourceAccount)).isSome := by
            by_contra miss
            have miss' := miss
            rw [equal] at miss'
            exact unbumped ⟨sent, Option.not_isSome_iff_eq_none.mp miss,
              Option.not_isSome_iff_eq_none.mp miss'⟩
          exact .inl ⟨held, equal ▸ held⟩
        · exact .inr noAccount
      obtain ⟨reply, v, stepped, same, next⟩ := related.sends_bumped fixed envelopeBytes
        hostFunction sourceAccount fun sent => (bumps sent).imp_left And.left
      obtain ⟨reply', v', stepped', same', next'⟩ := related'.sends_bumped fixed envelopeBytes
        hostFunction sourceAccount fun sent => (bumps (succeeds.mp sent)).imp_left And.right
      exact ⟨reply, reply', v, v', _, stepped, stepped', same.trans same'.symm, next, next'⟩
  · have known (source : RpcSnapshotSource X) : SourceKnown upstream source cmd := by
      cases cmd with
      | sendTransaction envelopeBytes hostFunction sourceAccount =>
          exact absurd ⟨_, _, _, rfl⟩ isSend
      | _ => trivial
    obtain ⟨reply, v, stepped, same, next⟩ := related.step fixed cmd (known _)
    obtain ⟨reply', v', stepped', same', next'⟩ := related'.step fixed cmd (known _)
    exact ⟨reply, reply', v, v', _, stepped, stepped', same.trans same'.symm, next, next'⟩

/-- A live worker answers every reading command. -/
theorem Represents.reply_of_readOnly (related : Represents upstream w e)
    (fixed : world.client.Fixed fun key => .ok (upstream key)) {cmd : Command X}
    (readOnly : cmd.ReadOnly) : ∃ reply, (w.step world cmd).1 = .ok reply := by
  have known : SourceKnown upstream w.env.source cmd := by
    cases cmd with
    | sendTransaction envelopeBytes hostFunction sourceAccount => exact readOnly.elim
    | _ => trivial
  obtain ⟨reply, v, stepped, -⟩ := related.step fixed cmd known
  exact ⟨reply, congrArg Prod.fst stepped⟩

/-- **Reads are invisible.**  Over an upstream that gives each key one answer,
insert any reading commands anywhere into any list of commands: the commands of
the list get the same replies, up to the fee and the creation time, provided
that each successful send bumps alike with and without the reads. -/
theorem reads_invisible (fixed : world.client.Fixed fun key => .ok (upstream key))
    (server : Server X) (script : List (Paired (Command X)))
    (readOnly : ∀ cmd, .extra cmd ∈ script → cmd.ReadOnly)
    (alike : (Server.machine world).AllBoth
      (fun s t => BumpsAlike world upstream s.worker t.worker) script server server) :
    ((Server.machine world).run (Paired.fewer script) server).1.map observedReply =
      (Paired.atBoth script ((Server.machine world).run (Paired.more script) server).1).map
        observedReply := by
  refine (Server.machine world).run_inserted
    (fun s t => s.alive = t.alive ∧
      ∃ e, Represents upstream s.worker e ∧ Represents upstream t.worker e)
    _ Command.ReadOnly observedReply ?_ ?_ readOnly alike
    ⟨rfl, _, .ofWorker server.worker, .ofWorker server.worker⟩
  · rintro cmd s t readOnly ⟨sameLife, e, related, related'⟩
    obtain ⟨reply, answered⟩ := related'.reply_of_readOnly fixed readOnly
    have next := related'.stepReads fixed readOnly
    cases alive : t.alive with
    | false =>
        simp only [Server.machine, Server.step_of_dead alive]
        exact ⟨sameLife, e, related, related'⟩
    | true =>
        simp only [Server.machine, Server.step_of_ok alive (Prod.ext answered rfl)]
        exact ⟨sameLife.trans alive, e, related, next⟩
  · rintro cmd s t alike ⟨sameLife, e, related, related'⟩
    cases alive : t.alive with
    | false =>
        simp only [Server.machine, Server.step_of_dead alive, Server.step_of_dead
          (sameLife.trans alive)]
        exact ⟨trivial, sameLife, e, related, related'⟩
    | true =>
        obtain ⟨reply, reply', v, v', e', stepped, stepped', same, next, next'⟩ :=
          related.stepBoth related' fixed cmd alike
        have observed : observedReply ⟨cmd, .ok reply⟩ = observedReply ⟨cmd, .ok reply'⟩ := by
          simp only [observedReply, Except.map, same]
        simp only [Server.machine, Server.step_of_ok alive stepped',
          Server.step_of_ok (sameLife.trans alive) stepped]
        exact ⟨observed, trivial, e', next, next'⟩

end

/-! ## An inserted read that shows -/

namespace Sample

/-- An upstream with one account in it. -/
def upstreamAccount : LedgerKey → Option FetchedEntry := fun key =>
  if key = .account (account 2) then
    some ⟨⟨1, .account (.fresh (account 2) 10 5), .v0⟩, none⟩
  else none

def worldAccount : World xdr := { world with client := fun _ key => .ok (upstreamAccount key) }

/-- A send from the account at `b`, and a look at the account, which may be
looked at before the send as well. -/
def lookSendLook (b : UInt8) : List (Paired (Command xdr)) :=
  [.extra (.getLedgerEntries [.account (account b)]),
    .both (.sendTransaction (.raw []) (call "noop" []) (account b)),
    .both (.getLedgerEntries [.account (account b)])]

theorem lookSendLook_readOnly (b : UInt8) (cmd : Command xdr)
    (mem : .extra cmd ∈ lookSendLook b) : cmd.ReadOnly := by
  rcases List.mem_cons.mp mem with same | mem
  · cases same
    trivial
  · simp at mem

/-- The entries a reply shows. -/
def entriesShown : (Σ cmd : Command xdr, Except ActorError cmd.Reply) →
    List (Option (LedgerKey × LedgerEntry × Option UInt32))
  | ⟨.getLedgerEntries _, .ok reply⟩ => reply.entries
  | _ => []

end Sample

open Sample in
/-- An account is looked at after a send from it.  Without the look before the
send it shows the sequence number upstream has, with it one more. -/
theorem read_decides_bump :
    (worldAccount.client.Fixed fun key => .ok (upstreamAccount key)) ∧
      (∀ cmd, .extra cmd ∈ lookSendLook 2 → cmd.ReadOnly) ∧
      ((Server.machine worldAccount).run (Paired.fewer (lookSendLook 2)) (server [])).1.map
          observedReply ≠
        (Paired.atBoth (lookSendLook 2)
          ((Server.machine worldAccount).run (Paired.more (lookSendLook 2)) (server [])).1).map
            observedReply := by
  refine ⟨fun _ _ => rfl, lookSendLook_readOnly 2, fun same => ?_⟩
  have shown := congrArg (List.map entriesShown) same
  revert shown
  decide

open Sample in
theorem reads_invisible_lookSendLook :
    ((Server.machine world).run (Paired.fewer (lookSendLook 1)) (server [accountEntry 1 5])).1.map
        observedReply =
      (Paired.atBoth (lookSendLook 1)
        ((Server.machine world).run (Paired.more (lookSendLook 1))
          (server [accountEntry 1 5])).1).map observedReply :=
  reads_invisible fixed (server [accountEntry 1 5]) (lookSendLook 1) (lookSendLook_readOnly 1)
    ⟨fun _ => .inl (by decide), trivial, trivial⟩

end SorobanFork
