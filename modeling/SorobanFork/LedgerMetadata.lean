import Mathlib.Data.List.Infix
import Mathlib.Algebra.Order.Group.Nat
import Mathlib.Order.Nat
import SorobanFork.Lib.Saturating
import SorobanFork.Sample
import SorobanFork.Server.Concurrent

/-!
# The ledger in a `sendTransaction` reply

The handler of `sendTransaction` asks for the sequence number and for the close
time in two commands after its send, so the commands of other requests may come
in between.  No command turns the clock back (`Server.clock_step`); so the pair
in the reply is one that the fork showed at some moment since the send exactly
when it is untorn (`reply_shows_one_moment_iff`): no command between the two
moves the close time and leaves a sequence number other than the one that was
read.
-/

namespace SorobanFork

open Lib

section

variable {X : Xdr} {world : World X} {wire : Wire X}

/-! ## The clock -/

theorem toNat_saturatingAdd32 (a b : UInt32) :
    (saturatingAdd32 a b).toNat = satAdd (2 ^ 32 - 1) a.toNat b.toNat := by
  unfold saturatingAdd32 satAdd
  split
  · rw [UInt32.toNat_add]
    omega
  · have greatest : (UInt32.ofNat (2 ^ 32 - 1)).toNat = 2 ^ 32 - 1 := rfl
    omega

theorem toNat_saturatingAdd64 (a b : UInt64) :
    (saturatingAdd64 a b).toNat = satAdd (2 ^ 64 - 1) a.toNat b.toNat := by
  unfold saturatingAdd64 satAdd
  split
  · rw [UInt64.toNat_add]
    omega
  · have greatest : (UInt64.ofNat (2 ^ 64 - 1)).toNat = 2 ^ 64 - 1 := rfl
    omega

theorem le_saturatingAdd32 (a b : UInt32) : a.toNat ≤ (saturatingAdd32 a b).toNat := by
  rw [toNat_saturatingAdd32]
  exact le_satAdd (Nat.le_pred_of_lt a.toNat_lt) b.toNat

theorem le_saturatingAdd64 (a b : UInt64) : a.toNat ≤ (saturatingAdd64 a b).toNat := by
  rw [toNat_saturatingAdd64]
  exact le_satAdd (Nat.le_pred_of_lt a.toNat_lt) b.toNat

/-- The close time is sent as a string. -/
theorem toString_injective {a b : UInt64} (same : toString a = toString b) : a = b := by
  have sameText : a.toNat.repr.toList = b.toNat.repr.toList := congrArg String.toList same
  rw [Nat.toList_repr, Nat.toList_repr] at sameText
  have sameNumber := congrArg (fun digits => Nat.ofDigitChars 10 digits 0) sameText
  simp only [Nat.ofDigitChars_toDigits (by decide : 1 < 10) (by decide : 10 ≤ 10)] at sameNumber
  exact UInt64.toNat_inj.mp sameNumber

/-- Only `fork_closeLedgers` moves the clock. -/
theorem Worker.ledger_step (world : World X) (w : Worker X) (cmd : Command X) :
    (w.step world cmd).2.env.ledger = w.env.ledger ∨
      ∃ ledgers seconds,
        (w.step world cmd).2.env.ledger = w.env.ledger.advance ledgers seconds := by
  by_cases readOnly : cmd.ReadOnly
  · exact .inl (step_onlyReads world w readOnly).1.ledger
  cases cmd with
  | setLedgerEntry key entry liveUntil => exact .inl rfl
  | closeLedgers ledgers seconds =>
      rw [step_closeLedgers]
      exact .inr ⟨ledgers, seconds, rfl⟩
  | sendTransaction envelopeBytes hostFunction sourceAccount =>
      obtain ⟨mid, reads, same | ⟨changes, applied⟩⟩ :=
        w.step_sendTransaction_env world envelopeBytes hostFunction sourceAccount
      · rw [same]
        exact .inl reads.ledger
      · rw [applied]
        exact .inl reads.ledger
  | _ => exact absurd trivial readOnly

/-- The close time a server reports. -/
def Server.ledgerCloseTime (server : Server X) : UInt64 := server.worker.env.ledgerCloseTime

namespace Server

variable {server server' : Server X}

/-- No command turns the clock back. -/
theorem clock_step (world : World X) (server : Server X) (cmd : Command X) :
    server.ledgerSequence.toNat ≤ (server.step world cmd).2.ledgerSequence.toNat ∧
      server.ledgerCloseTime.toNat ≤ (server.step world cmd).2.ledgerCloseTime.toNat := by
  have worker := server.step_worker world cmd
  unfold ledgerSequence ledgerCloseTime ForkedEnv.ledgerSequence ForkedEnv.ledgerCloseTime
  rw [worker]
  cases server.alive with
  | false => exact ⟨le_rfl, le_rfl⟩
  | true =>
      rw [if_pos rfl]
      rcases server.worker.ledger_step world cmd with same | ⟨ledgers, seconds, advanced⟩
      · rw [same]
        exact ⟨le_rfl, le_rfl⟩
      · rw [advanced]
        exact ⟨le_saturatingAdd32 _ ledgers, le_saturatingAdd64 _ seconds⟩

theorem step_getLatestLedger {reply : LatestLedgerReply}
    (stepped : server.step world .getLatestLedger = (.ok reply, server')) :
    reply.sequence = server'.ledgerSequence := by
  obtain ⟨-, w, ran, rfl⟩ := step_ok_iff.mp stepped
  cases ran
  rfl

theorem step_getLedgersPage {reply : LedgersPageReply}
    (stepped : server.step world .getLedgersPage = (.ok reply, server')) :
    reply.closeTime = server'.ledgerCloseTime := by
  obtain ⟨-, w, ran, rfl⟩ := step_ok_iff.mp stepped
  cases ran
  rfl

theorem worker_getLedgersPage {reply : LedgersPageReply}
    (stepped : server.step world .getLedgersPage = (.ok reply, server')) :
    server'.worker = server.worker := by
  obtain ⟨-, w, ran, rfl⟩ := step_ok_iff.mp stepped
  cases ran
  rfl

end Server

/-! ## The turns of a request -/

/-- The turns in which a request sends its transaction and reads the clock twice. -/
structure SendTurns {κ : Type} (k : κ) (schedule : List κ) : Type where
  before : List κ
  early : List κ
  between : List κ
  after : List κ
  split : schedule = before ++ k :: (early ++ k :: (between ++ k :: after))
  notBefore : k ∉ before
  notEarly : k ∉ early
  notBetween : k ∉ between

namespace SendTurns

variable {κ : Type} {k : κ} {schedule : List κ}

/-- The schedule up to the send. -/
def upToSend (turns : SendTurns k schedule) : List κ := turns.before ++ [k]

/-- The schedule up to the reading of the sequence number. -/
def upToSequence (turns : SendTurns k schedule) : List κ :=
  turns.upToSend ++ (turns.early ++ [k])

/-- The schedule up to the reading of the close time, after which it replies. -/
def upToReply (turns : SendTurns k schedule) : List κ :=
  turns.upToSequence ++ (turns.between ++ [k])

variable [DecidableEq κ] {Q α : Type} {R : Q → Type} {ε σ : Type}
  (serve : (q : Q) → σ → Except ε (R q) × σ) (c : Clients κ Q R ε σ α)

theorem run_upToSequence (turns : SendTurns k schedule) :
    Clients.run serve turns.upToSequence c =
      Clients.run serve (turns.early ++ [k]) (Clients.run serve turns.upToSend c) :=
  Clients.run_append serve _ _ c

theorem run_upToReply (turns : SendTurns k schedule) :
    Clients.run serve turns.upToReply c =
      Clients.run serve (turns.between ++ [k]) (Clients.run serve turns.upToSequence c) :=
  Clients.run_append serve _ _ c

end SendTurns

section Turns

variable {κ : Type} [DecidableEq κ] {requests : κ → String × wire.Json} {server : Server X} {k : κ}
  {schedule : List κ} {body : SendTransactionResponse}

/-- A request that decodes sends its transaction, reads the sequence number and
the close time, and replies with them. -/
theorem dispatch_sendTransaction_of_decoded (world : World X) {params : wire.Json} {request : SendRequest X}
    (decodes : decodeSendTransaction wire params = .ok request) :
    ∃ reply : SendReply X → LatestLedgerReply → LedgersPageReply → Handler X Response,
      dispatch world wire "sendTransaction" params =
        Prog.ask (.sendTransaction request.envelopeBytes request.hostFunction
          request.sourceAccount) (fun sent => .ask .getLatestLedger fun latest =>
            .ask .getLedgersPage (reply sent latest)) ∧
      ∀ sent latest page, ∃ body : SendTransactionResponse,
        reply sent latest page = Prog.ret (.ok (.sendTransaction body)) ∧
          body.latestLedger = latest.sequence ∧
          body.latestLedgerCloseTime = toString page.closeTime := by
  rw [dispatch_sendTransaction, handleSendTransaction, decodes, decoded_ok_bind]
  refine ⟨_, rfl, fun sent latest page => ?_⟩
  rcases (SendReply.receipt sent).result with message | value
  · exact ⟨_, rfl, rfl, rfl⟩
  · exact ⟨_, rfl, rfl, rfl⟩

/-- **The turns of a send.**  A request that replied took three turns, and its
reply holds the sequence number of the second and the close time of the third. -/
theorem exists_sendTurns (method : (requests k).1 = "sendTransaction")
    (answered : (Clients.run (Server.step world) schedule
      (concurrently world wire requests server)).progs k =
        .ok (.ret (.ok (.sendTransaction body)))) :
    ∃ turns : SendTurns k schedule,
      let shown (moment : List κ) := (Clients.run (Server.step world) moment
        (concurrently world wire requests server)).server
      body.latestLedger = (shown turns.upToSequence).ledgerSequence ∧
        body.latestLedgerCloseTime = toString (shown turns.upToReply).ledgerCloseTime ∧
        (shown turns.upToReply).worker = (shown (turns.upToSequence ++ turns.between)).worker := by
  have starts : (concurrently world wire requests server).progs k =
      .ok (dispatch world wire "sendTransaction" (requests k).2) := by
    rw [← method]
    rfl
  generalize concurrently world wire requests server = c at starts answered ⊢
  rcases decodes : decodeSendTransaction wire (requests k).2 with e | request
  · have rejected : dispatch world wire "sendTransaction" (requests k).2 =
        Prog.ret (.error e) := by
      rw [dispatch_sendTransaction, handleSendTransaction, decodes, decoded_error_bind]
    rw [rejected] at starts
    rw [Clients.progs_run_of_ret (Server.step world) schedule starts] at answered
    cases answered
  obtain ⟨reply, same, replies⟩ := dispatch_sendTransaction_of_decoded world decodes
  rw [same] at starts
  obtain ⟨before, rest, sent, rfl, notBefore, -, atSend, answered⟩ :=
    Clients.exists_turn (Server.step world) starts answered
  obtain ⟨early, rest, latest, rfl, notEarly, readSequence, atSequence, answered⟩ :=
    Clients.exists_turn (Server.step world) atSend answered
  obtain ⟨between, after, page, rfl, notBetween, readTime, atReply, answered⟩ :=
    Clients.exists_turn (Server.step world) atSequence answered
  obtain ⟨body', built, sequence, closeTime⟩ := replies sent latest page
  rw [built] at atReply
  rw [Clients.progs_run_of_ret (Server.step world) after atReply] at answered
  cases answered
  let turns : SendTurns k (before ++ k :: (early ++ k :: (between ++ k :: after))) :=
    ⟨before, early, between, after, rfl, notBefore, notEarly, notBetween⟩
  have atRead : Clients.run (Server.step world) turns.upToSequence c =
      Clients.run (Server.step world) (early ++ [k])
        (Clients.run (Server.step world) (before ++ [k]) c) :=
    turns.run_upToSequence (Server.step world) c
  have replied := turns.run_upToReply (Server.step world) c
  have waiting := Clients.run_append (Server.step world) turns.upToSequence between c
  rw [atRead] at replied waiting
  refine ⟨turns, ?_, ?_, ?_⟩
  · show _ = (Clients.run (Server.step world) turns.upToSequence c).server.ledgerSequence
    rw [atRead, sequence]
    exact Server.step_getLatestLedger readSequence
  · show _ = toString (Clients.run (Server.step world) turns.upToReply c).server.ledgerCloseTime
    rw [replied, closeTime, Server.step_getLedgersPage readTime]
  · show (Clients.run (Server.step world) turns.upToReply c).server.worker =
      (Clients.run (Server.step world) (turns.upToSequence ++ between) c).server.worker
    rw [replied, waiting]
    exact Server.worker_getLedgersPage readTime

/-- **A pair of one moment.**  In every interleaving, the sequence number and the
close time in a reply to `sendTransaction` are a pair that the fork showed at
some moment from its send to its reply exactly when they are untorn. -/
theorem reply_shows_one_moment_iff (method : (requests k).1 = "sendTransaction")
    (answered : (Clients.run (Server.step world) schedule
      (concurrently world wire requests server)).progs k =
        .ok (.ret (.ok (.sendTransaction body)))) :
    ∃ turns : SendTurns k schedule,
      let system := concurrently world wire requests server
      (∃ moment, turns.upToSend <+: moment ∧ moment <+: turns.upToReply ∧
        let shown := (Clients.run (Server.step world) moment system).server
        body.latestLedger = shown.ledgerSequence ∧
          body.latestLedgerCloseTime = toString shown.ledgerCloseTime) ↔
      Clients.Untorn (Server.step world) (fun server => server.ledgerSequence.toNat)
        (fun server => server.ledgerCloseTime.toNat) turns.between
        (Clients.run (Server.step world) turns.upToSequence system) := by
  obtain ⟨turns, sequence, closeTime, still⟩ := exists_sendTurns method answered
  refine ⟨turns, ?_⟩
  generalize concurrently world wire requests server = system at sequence closeTime still ⊢
  dsimp only at sequence closeTime still ⊢
  have climbsSequence (cmd : Command X) (s : Server X) := (s.clock_step world cmd).1
  have climbsTime (cmd : Command X) (s : Server X) := (s.clock_step world cmd).2
  have atMoment (m : List κ) : Clients.run (Server.step world) (turns.upToSequence ++ m) system =
      Clients.run (Server.step world) m
        (Clients.run (Server.step world) turns.upToSequence system) :=
    Clients.run_append (Server.step world) _ _ _
  -- asking for the close time does not move the clock
  rw [atMoment] at still
  have lastSequence := congrArg (fun w : Worker X => w.env.ledgerSequence) still
  have lastTime := congrArg (fun w : Worker X => w.env.ledgerCloseTime) still
  constructor
  · rintro ⟨moment, -, untilReply, sameSequence, sameTime⟩
    have shownSequence := sameSequence.symm.trans sequence
    have shownTime := toString_injective (sameTime.symm.trans closeTime)
    rcases List.prefix_or_prefix_of_prefix untilReply (List.prefix_append turns.upToSequence _) with
      earlier | ⟨m, rfl⟩
    · -- the close time was the last one before the sequence number was read
      have grown := Clients.run_le_of_prefix (Server.step world) climbsTime (c := system) earlier
      have grows := Clients.run_le_of_prefix (Server.step world) climbsTime
        (c := Clients.run (Server.step world) turns.upToSequence system)
        (List.nil_prefix (l := turns.between))
      rw [shownTime, Server.ledgerCloseTime, lastTime] at grown
      exact Clients.untorn_of_still (Server.step world) climbsTime (le_antisymm grows grown)
    · rw [atMoment] at shownSequence shownTime
      rw [Server.ledgerCloseTime, Server.ledgerCloseTime, lastTime] at shownTime
      refine (Clients.exists_moment_iff (Server.step world) climbsSequence climbsTime).mp ?_
      rcases List.prefix_concat_iff.mp ((List.prefix_append_right_inj _).mp untilReply) with
        rfl | within
      · refine ⟨turns.between, List.prefix_rfl, ?_, rfl⟩
        rw [← shownSequence, ← turns.run_upToReply (Server.step world) system]
        exact congrArg UInt32.toNat lastSequence.symm
      · exact ⟨m, within, congrArg UInt32.toNat shownSequence, congrArg UInt64.toNat shownTime⟩
  · intro untorn
    obtain ⟨m, within, sameSequence, sameTime⟩ :=
      Clients.exists_moment_of_untorn (Server.step world) untorn
    refine ⟨turns.upToSequence ++ m, ?_, ?_, ?_, ?_⟩
    · rw [SendTurns.upToSequence, List.append_assoc]
      exact List.prefix_append turns.upToSend _
    · exact (List.prefix_append_right_inj _).mpr (within.trans (List.prefix_append _ [k]))
    · rw [sequence, atMoment]
      exact UInt32.toNat_inj.mp sameSequence.symm
    · rw [closeTime, atMoment, UInt64.toNat_inj.mp sameTime, Server.ledgerCloseTime, lastTime]
      rfl

end Turns

end

/-! ## A run -/

namespace Sample

def stampWire : Wire xdr := wire [("tx", .envelope (envelope 2 none (call "f" [])))]

/-- A transaction is sent while a ledger is closed. -/
def sendAndClose : Bool → String × Json
  | false => ("fork_closeLedgers", .closeLedgers ⟨some 1, some 5⟩)
  | true => ("sendTransaction", .sendTransaction ⟨"tx"⟩)

/-- The two requests after a schedule of their commands. -/
def sendAndCloseAfter (schedule : List Bool) :
    Clients Bool (Command xdr) Command.Reply ActorError (Server xdr)
      (Except HandlerError Response) :=
  Clients.run (Server.step world) schedule (concurrently world stampWire sendAndClose (server []))

/-- The reply to the transaction, with a ledger and its close time. -/
def sentAt (latestLedger : UInt32) (closeTime : String) : SendTransactionResponse where
  status := .success
  hash := hexLower (bytes32 7)
  latestLedger := latestLedger
  latestLedgerCloseTime := closeTime
  envelopeXdr := "tx"
  errorMessage := none
  appliedChanges := 0

end Sample

open Sample in
theorem reply_shows_one_moment_iff_closedBefore :
    ∃ turns : SendTurns true [true, false, true, true],
      (∃ moment, turns.upToSend <+: moment ∧ moment <+: turns.upToReply ∧
        let shown := (sendAndCloseAfter moment).server
        (sentAt 101 "1005").latestLedger = shown.ledgerSequence ∧
          (sentAt 101 "1005").latestLedgerCloseTime = toString shown.ledgerCloseTime) ↔
      Clients.Untorn (Server.step world) (fun server => server.ledgerSequence.toNat)
        (fun server => server.ledgerCloseTime.toNat) turns.between
        (sendAndCloseAfter turns.upToSequence) :=
  reply_shows_one_moment_iff rfl rfl

open Sample in
/-- A ledger that is closed between the two readings tears them: the reply shows
the old sequence number with the new close time, and the fork never did. -/
theorem reply_of_no_moment :
    (sendAndCloseAfter [true, true, false, true]).progs true =
        .ok (.ret (.ok (.sendTransaction (sentAt 100 "1005")))) ∧
      ¬∃ moment, moment <+: [true, true, false, true] ∧
        let shown := (sendAndCloseAfter moment).server
        shown.ledgerSequence = 100 ∧ toString shown.ledgerCloseTime = "1005" := by
  refine ⟨rfl, ?_⟩
  rintro ⟨moment, part, sequence, closeTime⟩
  have mem := (List.mem_inits moment [true, true, false, true]).mpr part
  simp only [List.inits, List.map_cons, List.map_nil, List.mem_cons, List.not_mem_nil,
    or_false] at mem
  rcases mem with rfl | rfl | rfl | rfl | rfl
  · exact absurd closeTime (by decide)
  · exact absurd closeTime (by decide)
  · exact absurd closeTime (by decide)
  · exact absurd sequence (by decide)
  · exact absurd sequence (by decide)

end SorobanFork
