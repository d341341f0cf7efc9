import SorobanFork.Clock
import SorobanFork.DecimalText
import SorobanFork.ForkOfFork
import SorobanFork.Lib.Translate
import SorobanFork.Persistence

/-!
# The fork point of a fork of a fork

A build asks its upstream for the latest ledger, in two calls, and for the network.
Here upstream is a running fork, with other clients or without.

* `fork_point`: in every interleaving the new fork has the sequence number of one
  moment and the clock of that moment or a later one, so its clock is never behind
  its ledger.
* `chain_of_forks`: along forks of forks, used in between, the clock adds up, the
  protocol is only ever lowered, and the network stays the same.
-/

namespace SorobanFork

open Lib

/-! ## The calls of a build -/

structure GetLatestLedgerResult : Type where
  id : String
  protocolVersion : UInt32
  sequence : UInt32
deriving DecidableEq

structure LedgerInfoWire : Type where
  sequence : UInt32
  ledgerCloseTime : String
deriving DecidableEq

structure GetLedgersResult : Type where
  ledgers : List LedgerInfoWire
deriving DecidableEq

structure GetNetworkResult : Type where
  passphrase : String
  friendbotUrl : Option String
  protocolVersion : Option UInt32
deriving DecidableEq

/-- A call of the client that is not for entries. -/
inductive RpcCall : Type
  | getLatestLedger
  | getLedgers (startLedger : UInt32)
  | getNetwork
deriving DecidableEq

namespace RpcCall

def method : RpcCall → String
  | .getLatestLedger => "getLatestLedger"
  | .getLedgers _ => "getLedgers"
  | .getNetwork => "getNetwork"

def Result : RpcCall → Type
  | .getLatestLedger => GetLatestLedgerResult
  | .getLedgers _ => GetLedgersResult
  | .getNetwork => GetNetworkResult

end RpcCall

/-- A program that makes calls; each is an attempt. -/
abbrev Calls (β : Type) : Type :=
  Prog RpcCall (fun call => Attempt call.Result) (Except RpcFailure β)

/-- `?`: go on with the value, or fail. -/
def Calls.andThen {α β : Type} (calls : Calls α) (next : α → Calls β) : Calls β :=
  calls.bind fun
    | .error failure => .ret (.error failure)
    | .ok a => next a

section Client

variable (overflowChecks : Bool) (rpc : RpcConfig)

/-- `rpc_post`, and `into_result` of the response. -/
def callResult (call : RpcCall) : Calls call.Result :=
  ((rpcPost overflowChecks rpc ()).translate fun _ => .query call).bind fun
    | .error failure => .ret (.error failure)
    | .ok response => .ret (response.intoResult.mapError .error)

/-- The close time of the first ledger that is listed. -/
def firstCloseTime (sequence : UInt32) (result : GetLedgersResult) : Except ForkError UInt64 :=
  match result.ledgers with
  | [] => .error (.rpcError s!"getLedgers returned no entry for {sequence}")
  | ledger :: _ =>
    (parseU64 ledger.ledgerCloseTime).mapError fun e =>
      let text := ledger.ledgerCloseTime
      .rpcError s!"getLedgers returned non-numeric ledgerCloseTime '{text}': {e}"

def getLedgerCloseTime (sequence : UInt32) : Calls UInt64 :=
  (callResult overflowChecks rpc (.getLedgers sequence)).andThen fun result =>
    .ret ((firstCloseTime sequence result).mapError .error)

def getLatestLedger : Calls LatestLedger :=
  (callResult overflowChecks rpc .getLatestLedger).andThen fun result =>
    (getLedgerCloseTime overflowChecks rpc result.sequence).andThen fun closeTime =>
      .ret (.ok ⟨result.sequence, result.protocolVersion, closeTime⟩)

variable (sha256 : Bytes → Hash)

/-- The network id is the hash of the passphrase. -/
def getNetwork : Calls NetworkMetadata :=
  (callResult overflowChecks rpc .getNetwork).andThen fun result =>
    .ret (.ok ⟨result.passphrase, sha256 (utf8 result.passphrase)⟩)

/-- A build, with its calls; upstream is not asked for a network whose id is given. -/
def ForkConfig.buildOver {X : Xdr} (format : SnapshotFormat) (site : Site) (disk : Disk format)
    (config : ForkConfig) : Calls (ForkedEnv X) :=
  match site.newClient with
  | .error e => .ret (.error (.error e))
  | .ok () =>
    (getLatestLedger overflowChecks rpc).andThen fun latest =>
      let site := { site with latestLedger := .ok latest }
      match config.networkId with
      | some _ => .ret ((config.build format site disk).mapError .error)
      | none =>
        (getNetwork overflowChecks rpc sha256).andThen fun metadata =>
          let site := { site with network := .ok metadata }
          .ret ((config.build format site disk).mapError .error)

end Client

/-! ## A fork as upstream -/

section

variable {X : Xdr}

/-- The JSON of the parameters of these calls. -/
structure CallJson (wire : Wire X) : Type extends RpcJson wire where
  /-- `json!({})`. -/
  empty : wire.Json
  /-- `json!({ "startLedger": sequence, "pagination": { "limit": 1 } })`. -/
  ledgersParams : UInt32 → wire.Json

namespace CallJson

variable {wire : Wire X} (json : CallJson wire)

def params : RpcCall → wire.Json
  | .getLedgers startLedger => json.ledgersParams startLedger
  | _ => json.empty

/-- What the client makes of a reply of the server. -/
def read : (call : RpcCall) → RpcReply → Attempt call.Result
  | .getLatestLedger, .result (.latestLedger body) =>
    .ok ⟨some ⟨body.id, body.protocolVersion, body.sequence⟩, none⟩
  | .getLedgers _, .result (.ledgers body) =>
    .ok ⟨some ⟨body.ledgers.map fun item => ⟨item.sequence, item.ledgerCloseTime⟩⟩, none⟩
  | .getNetwork, .result (.network body) =>
    .ok ⟨some ⟨body.passphrase, body.friendbotUrl, some body.protocolVersion⟩, none⟩
  | _, .result _ => .error (.retry (.transport json.otherShape))
  | _, .error e => .ok ⟨none, some (json.errorText e)⟩
  | _, .noReply => .error (.retry (.transport json.connectionClosed))

/-- JSON keeps the sequence number of a request. -/
def KeepsSequence : Prop :=
  ∀ sequence, wire.isNull (json.ledgersParams sequence) = false ∧
    wire.getLedgersParams (json.ledgersParams sequence) = .ok ⟨some sequence⟩

end CallJson

/-- An attempt at a call, as the commands of its handler.  These are small requests,
so the server's HTTP layer takes them. -/
def attemptCall (world : World X) (wire : Wire X) (json : CallJson wire) (call : RpcCall) :
    Prog (Command X) Command.Reply (Attempt call.Result) :=
  Prog.bind (dispatch world wire call.method (json.params call)) fun outcome =>
    .ret (json.read call (.of (.ok outcome)))

/-- A build on top of a running fork. -/
def ForkConfig.buildOnFork (world : World X) (wire : Wire X) (json : CallJson wire)
    (overflowChecks : Bool) (rpc : RpcConfig) (sha256 : Bytes → Hash) (format : SnapshotFormat)
    (site : Site) (disk : Disk format) (config : ForkConfig) :
    Prog (Command X) Command.Reply (Except RpcFailure (ForkedEnv X)) :=
  (config.buildOver overflowChecks rpc sha256 format site disk).translate
    (attemptCall world wire json)

/-- The passphrase that a fork shows. -/
def ForkedEnv.shownPassphrase (env : ForkedEnv X) : String :=
  env.passphrase.getD "Forked Soroban Network (custom network_id)"

/-! ### What a build asks for -/

section Calls

variable {world : World X} {wire : Wire X} {json : CallJson wire} {overflowChecks : Bool}
  {rpc : RpcConfig}

/-- A call that the server answers at the first attempt takes one command. -/
theorem translate_callResult (fits : rpc.retries ≠ UInt32.ofNat (2 ^ 32 - 1)) {call : RpcCall}
    {cmd : Command X} {result : cmd.Reply → call.Result}
    (answers : attemptCall world wire json call =
      .ask cmd fun reply => .ret (.ok ⟨some (result reply), none⟩)) :
    (callResult overflowChecks rpc call).translate (attemptCall world wire json) =
      .ask cmd fun reply => .ret (.ok (result reply)) := by
  rw [callResult, rpcPost_of_ne fits, attempts, Prog.translate_bind, Prog.translate, Prog.query,
    Prog.ask_bind, Prog.translate, answers]
  rfl

theorem translate_andThen {α β : Type} (calls : Calls α) (next : α → Calls β) :
    (calls.andThen next).translate (attemptCall world wire json) =
      (calls.translate (attemptCall world wire json)).bind fun
        | .error failure => .ret (.error failure)
        | .ok a => (next a).translate (attemptCall world wire json) := by
  rw [Calls.andThen, Prog.translate_bind]
  congr 1
  funext outcome
  cases outcome <;> rfl

theorem attempt_getLatestLedger :
    attemptCall world wire json .getLatestLedger = .ask .getLatestLedger fun reply =>
      .ret (.ok ⟨some ⟨reply.id, reply.protocolVersion, reply.sequence⟩, none⟩) := rfl

theorem attempt_getNetwork :
    attemptCall world wire json .getNetwork = .ask .getNetwork fun reply =>
      .ret (.ok ⟨some ⟨reply.passphrase, none, some reply.protocolVersion⟩, none⟩) := rfl

theorem attempt_getLedgers (kept : json.KeepsSequence) (sequence : UInt32) :
    attemptCall world wire json (.getLedgers sequence) = .ask .getLedgersPage fun reply =>
      .ret (.ok ⟨some ⟨[⟨reply.sequence, toString reply.closeTime⟩]⟩, none⟩) := by
  obtain ⟨given, parsed⟩ := kept sequence
  have decodes : decodeGetLedgers wire (json.ledgersParams sequence) = .ok ⟨some sequence⟩ := by
    rw [decodeGetLedgers, given, if_neg Bool.false_ne_true, parseParams_ok parsed]
  have dispatches : dispatch world wire "getLedgers" (json.ledgersParams sequence) =
      handleGetLedgers wire (json.ledgersParams sequence) := rfl
  rw [attemptCall, RpcCall.method, CallJson.params, dispatches, handleGetLedgers, decodes,
    decoded_ok_bind]
  rfl

/-- The close time comes as decimal text, which the client reads back. -/
theorem translate_getLatestLedger (fits : rpc.retries ≠ UInt32.ofNat (2 ^ 32 - 1))
    (kept : json.KeepsSequence) :
    (getLatestLedger overflowChecks rpc).translate (attemptCall world wire json) =
      .ask .getLatestLedger fun latest => .ask .getLedgersPage fun page =>
        .ret (.ok ⟨latest.sequence, latest.protocolVersion, page.closeTime⟩) := by
  rw [getLatestLedger, translate_andThen, translate_callResult fits attempt_getLatestLedger,
    Prog.ask_bind]
  congr 1
  funext latest
  rw [Prog.ret_bind]
  dsimp only
  rw [translate_andThen, getLedgerCloseTime, translate_andThen,
    translate_callResult fits (attempt_getLedgers kept _), Prog.ask_bind, Prog.ask_bind]
  congr 1
  funext page
  simp only [Prog.ret_bind, firstCloseTime, parseU64_toString]
  rfl

variable {sha256 : Bytes → Hash} {format : SnapshotFormat} {site : Site} {disk : Disk format}
  {config : ForkConfig}

/-- The fork that is built from what upstream was heard to say. -/
def ForkConfig.buildFrom (sha256 : Bytes → Hash) (format : SnapshotFormat) (site : Site)
    (disk : Disk format) (config : ForkConfig) (latest : LatestLedgerReply)
    (page : LedgersPageReply) (network : Option NetworkReply) : Except ForkError (ForkedEnv X) :=
  let ledger : LatestLedger := ⟨latest.sequence, latest.protocolVersion, page.closeTime⟩
  let metadata (reply : NetworkReply) : NetworkMetadata :=
    ⟨reply.passphrase, sha256 (utf8 reply.passphrase)⟩
  config.build format
    { site with
      latestLedger := .ok ledger
      network := (network.map fun reply => .ok (metadata reply)).getD site.network } disk

/-- **The commands of a build.** -/
theorem buildOnFork_eq (fits : rpc.retries ≠ UInt32.ofNat (2 ^ 32 - 1))
    (kept : json.KeepsSequence) (client : site.newClient = .ok ()) :
    (config.buildOnFork world wire json overflowChecks rpc sha256 format site disk :
        Prog (Command X) Command.Reply (Except RpcFailure (ForkedEnv X))) =
      .ask .getLatestLedger fun latest => .ask .getLedgersPage fun page =>
        match config.networkId with
        | some _ =>
          .ret ((config.buildFrom sha256 format site disk latest page none).mapError .error)
        | none => .ask .getNetwork fun network =>
          .ret ((config.buildFrom sha256 format site disk latest page (some network)).mapError
            .error) := by
  obtain ⟨newClient, _, _, _, _, _⟩ := site
  dsimp only at client
  subst client
  rw [ForkConfig.buildOnFork, ForkConfig.buildOver]
  rw [translate_andThen, translate_getLatestLedger fits kept, Prog.ask_bind]
  congr 1
  funext latest
  rw [Prog.ask_bind]
  congr 1
  funext page
  rw [Prog.ret_bind]
  dsimp only
  cases config.networkId with
  | some id => rfl
  | none =>
      dsimp only
      rw [translate_andThen, getNetwork, translate_andThen,
        translate_callResult fits attempt_getNetwork, Prog.ask_bind, Prog.ask_bind]
      rfl

/-- A build fails at once, unless it has a client that makes an attempt. -/
theorem buildOnFork_fails_or :
    (∃ failure, (config.buildOnFork world wire json overflowChecks rpc sha256 format site disk :
        Prog (Command X) Command.Reply (Except RpcFailure (ForkedEnv X))) =
      .ret (.error failure)) ∨
      rpc.retries ≠ UInt32.ofNat (2 ^ 32 - 1) ∧ site.newClient = .ok () := by
  rcases client : site.newClient with e | ⟨⟩
  · refine .inl ⟨.error e, ?_⟩
    rw [ForkConfig.buildOnFork, ForkConfig.buildOver, client]
    rfl
  by_cases fits : rpc.retries = UInt32.ofNat (2 ^ 32 - 1)
  · obtain ⟨failure, posts⟩ :=
      @rpcPost_of_eq Unit RpcCall.getLatestLedger.Result overflowChecks rpc () fits
    refine .inl ⟨failure, ?_⟩
    rw [ForkConfig.buildOnFork, ForkConfig.buildOver, client, getLatestLedger, callResult, posts]
    rfl
  · exact .inr ⟨fits, rfl⟩

/-- The fork is at the fork point that a build makes of what upstream shows. -/
structure ForkedEnv.ForkedAt (sha256 : Bytes → Hash) (site : Site) (config : ForkConfig)
    (sequence : UInt32) (closeTime : UInt64) (protocolVersion : UInt32) (passphrase : String)
    (env : ForkedEnv X) : Prop where
  sequence : env.ledgerSequence = config.pinnedLedger.getD sequence
  closeTime : env.ledgerCloseTime = config.pinnedTimestamp.getD
    (saturatingAdd64 closeTime defaultForkTimeBufferSeconds)
  protocolVersion : env.protocolVersion =
    capProtocolVersion protocolVersion config.maxProtocolVersion site.hostMax
  network : config.networkId = none →
    env.passphrase = some passphrase ∧ env.networkId = sha256 (utf8 passphrase)

/-- A fork that was built is at what the build was told. -/
theorem ForkConfig.forkedAt_of_build {env : ForkedEnv X}
    (built : config.build format site disk = .ok env) :
    ∃ latest network, site.latestLedger = .ok latest ∧ config.resolveNetwork site = .ok network ∧
      env.passphrase = network.2 ∧ env.networkId = network.1 ∧
      env.ledgerSequence = config.pinnedLedger.getD latest.sequence ∧
      env.ledgerCloseTime = config.pinnedTimestamp.getD
        (saturatingAdd64 latest.closeTime defaultForkTimeBufferSeconds) ∧
      env.protocolVersion =
        capProtocolVersion latest.protocolVersion config.maxProtocolVersion site.hostMax := by
  unfold build at built
  rcases client : site.newClient with e | ⟨⟩
  · rw [client] at built
    cases built
  rcases asked : site.latestLedger with e | latest
  · rw [client, asked] at built
    cases built
  rcases resolved : config.resolveNetwork site with e | network
  · rw [client, asked, resolved] at built
    cases built
  rcases level : site.setDiagnosticLevel config.tracing with e | ⟨⟩
  · rw [client, asked, resolved, level] at built
    cases built
  rw [client, asked, resolved, level] at built
  cases built
  exact ⟨latest, network, rfl, rfl, rfl, rfl, rfl, rfl, rfl⟩

theorem forkedAt_of_buildFrom {latest : LatestLedgerReply} {page : LedgersPageReply}
    {network : Option NetworkReply} {passphrase : String} {env : ForkedEnv X}
    (built : config.buildFrom sha256 format site disk latest page network = .ok env)
    (heard : config.networkId = none →
      ∃ reply, network = some reply ∧ reply.passphrase = passphrase) :
    env.ForkedAt sha256 site config latest.sequence page.closeTime latest.protocolVersion
      passphrase := by
  obtain ⟨_, resolved, same, resolves, phrase, id, sequence, closeTime, protocolVersion⟩ :=
    ForkConfig.forkedAt_of_build built
  cases same
  refine ⟨sequence, closeTime, protocolVersion, fun unnamed => ?_⟩
  obtain ⟨reply, rfl, rfl⟩ := heard unnamed
  rw [ForkConfig.resolveNetwork, unnamed] at resolves
  cases resolves
  exact ⟨phrase, id⟩

/-! ### Among other clients -/

section Interleaved

variable {κ : Type} [DecidableEq κ]
  {c : Clients κ (Command X) Command.Reply ActorError (Server X) (Except RpcFailure (ForkedEnv X))}
  {k : κ} {schedule : List κ} {env : ForkedEnv X}

/-- What no command changes is as it was. -/
theorem frame_run (world : World X)
    (c : Clients κ (Command X) Command.Reply ActorError (Server X)
      (Except RpcFailure (ForkedEnv X))) (schedule : List κ) :
    let server := (Clients.run (Server.step world) schedule c).server
    server.worker.env.protocolVersion = c.server.worker.env.protocolVersion ∧
      server.worker.env.passphrase = c.server.worker.env.passphrase :=
  Clients.run_rel (Server.step world)
    (fun before after =>
      after.worker.env.protocolVersion = before.worker.env.protocolVersion ∧
        after.worker.env.passphrase = before.worker.env.passphrase)
    (fun _ => ⟨rfl, rfl⟩)
    (fun _ _ _ first second => ⟨second.1.trans first.1, second.2.trans first.2⟩)
    (fun cmd server => server.frame_step world cmd) schedule c

/-- **The fork point.**  In every interleaving, a build on top of a running fork gives
a fork at the sequence number of one moment, at the clock of the same or a later
moment and a buffer, with the protocol and the passphrase that the running fork
always shows.  So its clock is never behind that of its ledger. -/
theorem fork_point (kept : json.KeepsSequence)
    (starts : c.progs k =
      .ok (config.buildOnFork world wire json overflowChecks rpc sha256 format site disk))
    (built : (Clients.run (Server.step world) schedule c).progs k = .ok (.ret (.ok env))) :
    ∃ first second, first <+: second ∧ second <+: schedule ∧
      let shown (moment : List κ) := (Clients.run (Server.step world) moment c).server
      env.ForkedAt sha256 site config (shown first).ledgerSequence
          (shown second).ledgerCloseTime c.server.worker.env.protocolVersion
          c.server.worker.env.shownPassphrase ∧
        (config.pinnedTimestamp = none →
          min (2 ^ 64 - 1) ((shown first).ledgerCloseTime.toNat + 3600) ≤
            env.ledgerCloseTime.toNat) := by
  obtain ⟨failure, failed⟩ | ⟨fits, client⟩ := @buildOnFork_fails_or X world wire json
    overflowChecks rpc sha256 format site disk config
  · rw [failed] at starts
    rw [Clients.progs_run_of_ret (Server.step world) schedule starts] at built
    cases built
  rw [buildOnFork_eq fits kept client] at starts
  obtain ⟨first, rest, latest, rfl, -, readLatest, next, built⟩ :=
    Clients.exists_turn (Server.step world) starts built
  obtain ⟨between, rest, page, rfl, -, readPage, next, built⟩ :=
    Clients.exists_turn (Server.step world) next built
  obtain ⟨rfl, -⟩ := Server.eq_of_step_ok rfl readLatest
  obtain ⟨rfl, -⟩ := Server.eq_of_step_ok rfl readPage
  have total : first ++ [k] ++ between <+: first ++ k :: (between ++ k :: rest) := by
    rw [List.append_assoc, List.singleton_append, List.prefix_append_right_inj,
      List.cons_prefix_cons]
    exact ⟨rfl, List.prefix_append _ _⟩
  have early : first <+: first ++ [k] ++ between := by
    rw [List.append_assoc]
    exact List.prefix_append _ _
  have atFirst := frame_run world c first
  have forked : env.ForkedAt sha256 site config
      (Clients.run (Server.step world) first c).server.ledgerSequence
      (Clients.run (Server.step world) (first ++ [k] ++ between) c).server.ledgerCloseTime
      c.server.worker.env.protocolVersion c.server.worker.env.shownPassphrase := by
    rw [Clients.run_append, ← atFirst.1]
    rcases named : config.networkId with _ | id
    · simp only [named] at next
      obtain ⟨later, rest, network, rfl, -, readNetwork, next, built⟩ :=
        Clients.exists_turn (Server.step world) next built
      obtain ⟨rfl, -⟩ := Server.eq_of_step_ok rfl readNetwork
      rw [Clients.progs_run_of_ret (Server.step world) rest next] at built
      refine forkedAt_of_buildFrom (except_mapError_eq_ok.mp (Prog.ret.inj (Except.ok.inj built)))
        fun _ => ⟨_, rfl, ?_⟩
      dsimp only
      rw [← Clients.run_append, ← Clients.run_append, (frame_run world c _).2]
      rfl
    · simp only [named] at next
      rw [Clients.progs_run_of_ret (Server.step world) rest next] at built
      exact forkedAt_of_buildFrom (except_mapError_eq_ok.mp (Prog.ret.inj (Except.ok.inj built)))
        fun unnamed => absurd (named.symm.trans unnamed) nofun
  refine ⟨first, first ++ [k] ++ between, early, total, forked, fun unpinned => ?_⟩
  have grows := Clients.run_le_of_prefix (Server.step world)
    (fun cmd server => (server.clock_step world cmd).2) (c := c) early
  rw [forked.closeTime, unpinned, Option.getD_none, toNat_saturatingAdd64, satAdd]
  exact min_le_min_left _ (Nat.add_le_add_right grows 3600)

end Interleaved

/-- A build alone with a running fork leaves it as it is. -/
theorem run_buildOnFork (kept : json.KeepsSequence) {server server' : Server X} {env : ForkedEnv X}
    (ran : Prog.run (Server.step world)
      (config.buildOnFork world wire json overflowChecks rpc sha256 format site disk) server =
        (.ok (.ok env), server')) :
    server.alive = true ∧ server' = server ∧
      env.ForkedAt sha256 site config server.ledgerSequence server.ledgerCloseTime
        server.worker.env.protocolVersion server.worker.env.shownPassphrase := by
  obtain ⟨failure, failed⟩ | ⟨fits, client⟩ := @buildOnFork_fails_or X world wire json
    overflowChecks rpc sha256 format site disk config
  · rw [failed] at ran
    cases ran
  rw [buildOnFork_eq fits kept client] at ran
  obtain ⟨_, -, failed⟩ | ⟨latest, server₁, readLatest, ran⟩ := Prog.run_ask_cases ran
  · cases failed
  obtain ⟨_, -, failed⟩ | ⟨page, server₂, readPage, ran⟩ := Prog.run_ask_cases ran
  · cases failed
  obtain ⟨alive, -⟩ := Server.step_ok_iff.mp readLatest
  obtain ⟨rfl, rfl⟩ := Server.eq_of_step_ok rfl readLatest
  obtain ⟨rfl, rfl⟩ := Server.eq_of_step_ok rfl readPage
  refine ⟨alive, ?_⟩
  rcases named : config.networkId with _ | id
  · simp only [named] at ran
    obtain ⟨_, -, failed⟩ | ⟨network, server₃, readNetwork, ran⟩ := Prog.run_ask_cases ran
    · cases failed
    obtain ⟨rfl, rfl⟩ := Server.eq_of_step_ok rfl readNetwork
    obtain ⟨outcome, rfl⟩ := Prod.mk.inj ran
    exact ⟨rfl, forkedAt_of_buildFrom (except_mapError_eq_ok.mp (Except.ok.inj outcome))
      fun _ => ⟨_, rfl, rfl⟩⟩
  · simp only [named] at ran
    obtain ⟨outcome, rfl⟩ := Prod.mk.inj ran
    exact ⟨rfl, forkedAt_of_buildFrom (except_mapError_eq_ok.mp (Except.ok.inj outcome))
      fun unnamed => absurd (named.symm.trans unnamed) nofun⟩

end Calls

/-! ## Forks of forks -/

/-- The ledgers and the seconds that a command is to advance the clock by. -/
def Command.advance : Command X → Nat × Nat
  | .closeLedgers ledgers seconds => (ledgers.toNat, seconds.toNat)
  | _ => (0, 0)

namespace Server

variable {world : World X} {server : Server X}

theorem clock_zero (server : Server X) :
    satAdd (2 ^ 32 - 1) server.ledgerSequence.toNat 0 = server.ledgerSequence.toNat ∧
      satAdd (2 ^ 64 - 1) server.ledgerCloseTime.toNat 0 = server.ledgerCloseTime.toNat :=
  ⟨satAdd_zero (Nat.le_pred_of_lt (UInt32.toNat_lt _)),
    satAdd_zero (Nat.le_pred_of_lt (UInt64.toNat_lt _))⟩

theorem clock_step_eq (alive : server.alive = true) (cmd : Command X) :
    (server.step world cmd).2.ledgerSequence.toNat =
        satAdd (2 ^ 32 - 1) server.ledgerSequence.toNat cmd.advance.1 ∧
      (server.step world cmd).2.ledgerCloseTime.toNat =
        satAdd (2 ^ 64 - 1) server.ledgerCloseTime.toNat cmd.advance.2 := by
  have still (same : (server.step world cmd).2.worker.env.ledger = server.worker.env.ledger) :
      (server.step world cmd).2.ledgerSequence.toNat =
          satAdd (2 ^ 32 - 1) server.ledgerSequence.toNat 0 ∧
        (server.step world cmd).2.ledgerCloseTime.toNat =
          satAdd (2 ^ 64 - 1) server.ledgerCloseTime.toNat 0 := by
    rw [server.clock_zero.1, server.clock_zero.2]
    exact ⟨congrArg (·.sequenceNumber.toNat) same, congrArg (·.timestamp.toNat) same⟩
  cases cmd with
  | closeLedgers ledgers seconds =>
      have worker := server.step_worker world (.closeLedgers ledgers seconds)
      rw [alive, if_pos rfl, Worker.step_closeLedgers] at worker
      unfold ledgerSequence ledgerCloseTime
      rw [worker]
      exact clock_warp server.worker.env ledgers seconds
  | _ => exact still (ledger_step_of_ne nofun)

theorem alive_of_step {cmd : Command X} (alive : (server.step world cmd).2.alive = true) :
    server.alive = true := by
  by_contra notAlive
  have dead := Bool.eq_false_of_not_eq_true notAlive
  rw [step_of_dead dead] at alive
  exact notAlive alive

theorem alive_of_run {cmds : List (Command X)}
    (alive : ((machine world).run cmds server).2.alive = true) : server.alive = true := by
  induction cmds generalizing server with
  | nil => exact alive
  | cons cmd cmds ih => exact alive_of_step (ih alive)

/-- The clock of a fork that is still alive after some commands. -/
theorem clock_run {cmds : List (Command X)}
    (alive : ((machine world).run cmds server).2.alive = true) :
    ((machine world).run cmds server).2.ledgerSequence.toNat =
        satAdd (2 ^ 32 - 1) server.ledgerSequence.toNat (cmds.map (·.advance.1)).sum ∧
      ((machine world).run cmds server).2.ledgerCloseTime.toNat =
        satAdd (2 ^ 64 - 1) server.ledgerCloseTime.toNat (cmds.map (·.advance.2)).sum := by
  induction cmds generalizing server with
  | nil => exact ⟨server.clock_zero.1.symm, server.clock_zero.2.symm⟩
  | cons cmd cmds ih =>
      have first : (server.step world cmd).2.alive = true := alive_of_run alive
      obtain ⟨sequence, closeTime⟩ := clock_step_eq (alive_of_step first) cmd
      obtain ⟨sequences, closeTimes⟩ := @ih (server.step world cmd).2 alive
      rw [sequence, satAdd_satAdd] at sequences
      rw [closeTime, satAdd_satAdd] at closeTimes
      rw [List.map_cons, List.map_cons, List.sum_cons, List.sum_cons]
      exact ⟨sequences, closeTimes⟩

theorem frame_machine (cmds : List (Command X)) :
    ((machine world).run cmds server).2.worker.env.protocolVersion =
        server.worker.env.protocolVersion ∧
      ((machine world).run cmds server).2.worker.env.passphrase = server.worker.env.passphrase :=
  (machine world).run_rel
    (fun before after =>
      after.worker.env.protocolVersion = before.worker.env.protocolVersion ∧
        after.worker.env.passphrase = before.worker.env.passphrase)
    (fun _ => ⟨rfl, rfl⟩)
    (fun _ _ _ first second => ⟨second.1.trans first.1, second.2.trans first.2⟩)
    (fun cmd server => server.frame_step world cmd) cmds server

end Server

/-- A fork that is used, and then the upstream of the next one. -/
structure Generation (X : Xdr) (format : SnapshotFormat) : Type 1 where
  world : World X
  wire : Wire X
  json : CallJson wire
  /-- The commands that the fork executes before the next one is built. -/
  commands : List (Command X)
  overflowChecks : Bool
  rpc : RpcConfig
  site : Site
  disk : Disk format
  config : ForkConfig

namespace Generation

variable {format : SnapshotFormat} (g : Generation X format)

/-- The running fork when the next one is built. -/
def used (env : ForkedEnv X) : Server X :=
  ((Server.machine g.world).run g.commands ⟨⟨env, ∅, 0⟩, true⟩).2

/-- Build the next fork. -/
def next (sha256 : Bytes → Hash) (env : ForkedEnv X) :
    Except ActorError (Except RpcFailure (ForkedEnv X)) × Server X :=
  Prog.run (Server.step g.world)
    (g.config.buildOnFork g.world g.wire g.json g.overflowChecks g.rpc sha256 format g.site g.disk)
    (g.used env)

/-- The next fork takes everything from upstream: nothing is pinned. -/
structure Follows : Prop where
  kept : g.json.KeepsSequence
  ledger : g.config.pinnedLedger = none
  timestamp : g.config.pinnedTimestamp = none
  network : g.config.networkId = none

def ledgers : Nat := (g.commands.map (·.advance.1)).sum

def seconds : Nat := (g.commands.map (·.advance.2)).sum

/-- The latest protocol that the next fork may have. -/
def protocolCap : UInt32 :=
  (g.config.maxProtocolVersion.map fun m => min m g.site.hostMax).getD g.site.hostMax

variable {g}

/-- **One generation.** -/
theorem forkedAt_next {sha256 : Bytes → Hash} {env env' : ForkedEnv X} (follows : g.Follows)
    (built : (g.next sha256 env).1 = .ok (.ok env')) :
    env'.ledgerSequence.toNat = satAdd (2 ^ 32 - 1) env.ledgerSequence.toNat g.ledgers ∧
      env'.ledgerCloseTime.toNat =
        satAdd (2 ^ 64 - 1) env.ledgerCloseTime.toNat (g.seconds + 3600) ∧
      env'.protocolVersion = min env.protocolVersion g.protocolCap ∧
      env'.passphrase = some env.shownPassphrase ∧
      env'.networkId = sha256 (utf8 env.shownPassphrase) := by
  have ran : g.next sha256 env = (.ok (.ok env'), (g.next sha256 env).2) := Prod.ext built rfl
  obtain ⟨alive, -, forked⟩ := run_buildOnFork follows.kept ran
  have clock := Server.clock_run alive
  obtain ⟨protocol, passphrase⟩ :=
    @Server.frame_machine X g.world ⟨⟨env, ∅, 0⟩, true⟩ g.commands
  have phrase : (g.used env).worker.env.shownPassphrase = env.shownPassphrase := by
    rw [ForkedEnv.shownPassphrase, used, passphrase, ForkedEnv.shownPassphrase]
  have network := forked.network follows.network
  rw [phrase] at network
  refine ⟨?_, ?_, ?_, network⟩
  · rw [forked.sequence, follows.ledger, Option.getD_none]
    exact clock.1
  · rw [forked.closeTime, follows.timestamp, Option.getD_none, toNat_saturatingAdd64]
    rw [used, clock.2, satAdd_satAdd]
    rfl
  · rw [forked.protocolVersion, used, protocol]
    rfl

end Generation

/-- Forks, each built on top of the one before. -/
inductive ForkChain {format : SnapshotFormat} (sha256 : Bytes → Hash) :
    ForkedEnv X → List (Generation X format) → ForkedEnv X → Prop
  | nil (env : ForkedEnv X) : ForkChain sha256 env [] env
  | cons {g : Generation X format} {generations : List (Generation X format)}
    {env env' last : ForkedEnv X} : (g.next sha256 env).1 = .ok (.ok env') →
    ForkChain sha256 env' generations last → ForkChain sha256 env (g :: generations) last

/-- **Forks of forks.**  Along a chain of forks of which each is used for a while and
then forked, with nothing pinned, the sequence number grows by all ledgers that were
closed; the clock by all seconds that went by and one buffer for each fork; the
protocol is the least of the caps; and from the first fork on the network is that of
the passphrase shown. -/
theorem chain_of_forks {format : SnapshotFormat} {sha256 : Bytes → Hash}
    {env last : ForkedEnv X} {generations : List (Generation X format)}
    (chain : ForkChain sha256 env generations last) (follows : ∀ g ∈ generations, g.Follows) :
    last.ledgerSequence.toNat =
        min (2 ^ 32 - 1) (env.ledgerSequence.toNat + (generations.map (·.ledgers)).sum) ∧
      last.ledgerCloseTime.toNat = min (2 ^ 64 - 1)
        (env.ledgerCloseTime.toNat + (generations.map (·.seconds + 3600)).sum) ∧
      last.protocolVersion = (generations.map (·.protocolCap)).foldl min env.protocolVersion ∧
      (generations ≠ [] → last.passphrase = some env.shownPassphrase ∧
        last.networkId = sha256 (utf8 env.shownPassphrase)) := by
  induction chain with
  | nil env =>
      refine ⟨?_, ?_, rfl, fun more => absurd rfl more⟩
      · exact (satAdd_zero (Nat.le_pred_of_lt (UInt32.toNat_lt _))).symm
      · exact (satAdd_zero (Nat.le_pred_of_lt (UInt64.toNat_lt _))).symm
  | @cons g generations env env' last built chain ih =>
      obtain ⟨sequence, closeTime, protocol, phrase, network⟩ :=
        Generation.forkedAt_next (follows g (.head _)) built
      obtain ⟨sequences, closeTimes, protocols, networks⟩ :=
        ih fun g mem => follows g (.tail _ mem)
      refine ⟨?_, ?_, ?_, fun _ => ?_⟩
      · rw [sequences, sequence, List.map_cons, List.sum_cons]
        exact satAdd_satAdd _ _ _ _
      · rw [closeTimes, closeTime, List.map_cons, List.sum_cons]
        exact satAdd_satAdd _ _ _ _
      · rw [protocols, protocol, List.map_cons, List.foldl_cons]
      · have same : env'.shownPassphrase = env.shownPassphrase := by
          rw [ForkedEnv.shownPassphrase, phrase, Option.getD_some]
        cases chain with
        | nil => exact ⟨phrase, network⟩
        | cons => exact same ▸ networks nofun

end

namespace Sample

def callJson : CallJson (wire []) where
  ledgerEntriesParams keys := .getLedgerEntries ⟨keys⟩
  refused _ := none
  errorText e := e.message
  otherShape := "missing field"
  connectionClosed := "connection closed before message completed"
  empty := .null
  ledgersParams sequence := .getLedgers ⟨some sequence⟩

theorem callJson_keepsSequence : callJson.KeepsSequence := fun _ => ⟨rfl, rfl⟩

def rawSha256 (bytes : Bytes) : Hash := world.sha256 (.raw bytes)

/-- A build, while another client closes a ledger. -/
def buildAndClose : Clients Bool (Command xdr) Command.Reply ActorError (Server xdr)
    (Except RpcFailure (ForkedEnv xdr)) where
  progs
    | true => .ok (config.buildOnFork world (wire []) callJson true ⟨3, 200⟩ rawSha256
        snapshotFormat site fun _ => none)
    | false => .ok (.ask (.closeLedgers 1 5) fun _ => .ret (.error (.panic "closed")))
  server := server []

/-- A fork that closes ledgers before the next one is built. -/
def closing (ledgers : UInt32) (seconds : UInt64) : Generation xdr snapshotFormat :=
  ⟨world, wire [], callJson, [.closeLedgers ledgers seconds], true, ⟨3, 200⟩, site, fun _ => none,
    config⟩

theorem follows_closing (ledgers : UInt32) (seconds : UInt64) :
    (closing ledgers seconds).Follows :=
  ⟨callJson_keepsSequence, rfl, rfl, rfl⟩

end Sample

open Sample in
/-- The ledger is closed between the two calls for the latest one. -/
theorem fork_point_closedBetween :
    ∃ (env : ForkedEnv xdr) (first second : List Bool), first <+: second ∧
      second <+: [true, false, true, true, true] ∧
      let shown (moment : List Bool) :=
        (Clients.run (Server.step world) moment buildAndClose).server
      env.ForkedAt rawSha256 site config (shown first).ledgerSequence
          (shown second).ledgerCloseTime 25 "Forked Soroban Network (custom network_id)" ∧
        (config.pinnedTimestamp = none →
          min (2 ^ 64 - 1) ((shown first).ledgerCloseTime.toNat + 3600) ≤
            env.ledgerCloseTime.toNat) := by
  have built : ∃ env, (Clients.run (Server.step world) [true, false, true, true, true]
      buildAndClose).progs true = .ok (.ret (.ok env)) := ⟨_, rfl⟩
  obtain ⟨env, built⟩ := built
  exact ⟨env, fork_point callJson_keepsSequence rfl built⟩

open Sample in
theorem chain_of_forks_closing : ∃ last,
    ForkChain rawSha256 started.worker.env [closing 3 15, closing 1 5] last ∧
      last.ledgerSequence.toNat = 104 ∧ last.ledgerCloseTime.toNat = 11820 ∧
      last.protocolVersion = 25 ∧ last.passphrase = some "Standalone Network" := by
  have chain : ∃ last,
      ForkChain rawSha256 started.worker.env [closing 3 15, closing 1 5] last :=
    ⟨_, .cons rfl (.cons rfl (.nil _))⟩
  obtain ⟨last, chain⟩ := chain
  have follows : ∀ g ∈ [closing 3 15, closing 1 5], g.Follows := by
    simp only [List.forall_mem_cons]
    exact ⟨follows_closing 3 15, follows_closing 1 5, List.forall_mem_nil _⟩
  obtain ⟨sequence, closeTime, protocol, network⟩ := chain_of_forks chain follows
  refine ⟨last, chain, sequence.trans ?_, closeTime.trans ?_, protocol.trans ?_, (network nofun).1⟩
  all_goals decide

end SorobanFork
