import SorobanFork.Coherence

/-!
# Requests keep keys and entries together

The handlers write entries that they built, or that they read under the key they
write back to.  As clients of one worker they keep it coherent, in every
interleaving (`coherent_requests`).  So `fork_setBalance` and `fork_etch` never
find an entry of another kind than their key's, and a bump finds an account
under an account's key or nothing at all.
-/

namespace SorobanFork

open Lib

section

variable {X : Xdr}

/-- The handler found an entry of another kind than its key's. -/
def HandlerError.KindMismatch (wire : Wire X) (e : HandlerError) : Prop :=
  ∃ other,
    e = internalError
      ("expected Account entry under Account key, got " ++ wire.debugEntryData other ++
        " (cache corruption or LedgerKey/LedgerEntry shape mismatch)") ∨
    e = internalError
      ("expected Trustline entry under Trustline key, got " ++ wire.debugEntryData other ++
        " (cache corruption or LedgerKey/LedgerEntry shape mismatch)") ∨
    e = internalError
      ("instance LedgerKey resolved to non-ContractData entry: " ++ wire.debugEntryData other)

variable {world : World X} {wire : Wire X}

theorem not_kindMismatch_invalidParams (detail : String) :
    ¬(invalidParams detail).KindMismatch wire := by
  rintro ⟨other, same | same | same⟩ <;> cases same

theorem not_kindMismatch_panic (message : String) :
    ¬(HandlerError.panic message).KindMismatch wire := by
  rintro ⟨other, same | same | same⟩ <;> cases same

/-- An instance key with a value that is not an instance is another failure. -/
theorem not_kindMismatch_notInstance (val : String) :
    ¬(internalError ("instance entry's val is not ContractInstance: " ++ val ++
      " (host invariant violation; refusing to overwrite)")).KindMismatch wire := by
  have texts {a b : String} (same : internalError a = internalError b) : a.toList = b.toList := by
    cases same
    rfl
  rintro ⟨other, same | same | same⟩
  · simpa using texts same
  · simpa using texts same
  · simpa using texts same

/-! ## Handlers -/

/-- Answered with coherent entries, the handler brings coherent entries, and
does not end in a mismatch. -/
abbrev Keyed (wire : Wire X) (handler : Handler X Response) : Prop :=
  Prog.Meets Command.Coherent Command.ShowsCoherent
    (fun outcome => ∀ e, outcome = .error e → ¬e.KindMismatch wire) handler

theorem keyed_pure (response : Response) : Keyed wire (pure response : Handler X Response) := by
  intro e failed
  cases failed

theorem keyed_error {e : HandlerError} (fine : ¬e.KindMismatch wire) :
    Keyed wire (decoded (.error e) : Handler X Response) := by
  intro e' failed
  cases failed
  exact fine

theorem keyed_send {cmd : Command X} {next : cmd.Reply → Handler X Response}
    (own : cmd.Coherent) (rest : ∀ reply, cmd.ShowsCoherent reply → Keyed wire (next reply)) :
    Keyed wire (send cmd >>= next) :=
  ⟨own, rest⟩

/-- A command that writes no entry of its own and shows none. -/
theorem keyed_ask {cmd : Command X} {next : cmd.Reply → Handler X Response}
    (own : cmd.Coherent) (rest : ∀ reply, Keyed wire (next reply)) :
    Keyed wire (send cmd >>= next) :=
  keyed_send own fun reply _ => rest reply

theorem keyed_decoded {α : Type} {value : Except HandlerError α}
    {next : α → Handler X Response} (fine : ∀ e, value = .error e → ¬e.KindMismatch wire)
    (rest : ∀ a, value = .ok a → Keyed wire (next a)) : Keyed wire (decoded value >>= next) := by
  cases value with
  | error e =>
      rw [decoded_error_bind]
      exact keyed_error (fine e rfl)
  | ok a =>
      rw [decoded_ok_bind]
      exact rest a rfl

theorem keyed_decodedParams {α : Type} {value : Except HandlerError α}
    {next : α → Handler X Response} (invalid : InvalidOnly value)
    (rest : ∀ a, value = .ok a → Keyed wire (next a)) : Keyed wire (decoded value >>= next) := by
  refine keyed_decoded (fun e failed => ?_) rest
  obtain ⟨detail, rfl⟩ := invalid e failed
  exact not_kindMismatch_invalidParams detail

/-- A write that brings its own entry, and then reports the ledger. -/
theorem keyed_write {write : EntryWrite} {response : LatestLedgerReply → Response}
    (own : write.entry.data.key = write.key) :
    Keyed wire (do
      send write.command
      let latest ← send .getLatestLedger
      return response latest) :=
  keyed_ask own fun _ => keyed_ask trivial fun _ => keyed_pure _

/-- A one-key read shows an entry under its own key. -/
theorem single_of_showsCoherent {key : LedgerKey} {reply : LedgerEntriesReply}
    (shows_ : (Command.getLedgerEntries [key] : Command X).ShowsCoherent reply)
    {entry : LedgerEntry} (found : reply.single = some entry) : entry.data.key = key := by
  obtain ⟨ledger, coherent, entries⟩ := shows_
  rw [LedgerEntriesReply.single, entries] at found
  cases at_key : ledger key with
  | none => simp [at_key] at found
  | some value =>
      simp only [List.map_cons, List.map_nil, at_key, Option.map_some, List.head?_cons,
        Option.join_some, Option.some.injEq] at found
      rw [← found]
      exact coherent key value at_key

/-- Over an entry of its key, a new balance is an entry of that key, and is
always found a place. -/
theorem rebalance_of_own (wire : Wire X) {request : BalanceRequest} {existing : Option LedgerEntry}
    (own : ∀ entry, existing = some entry → entry.data.key = request.key)
    (latestLedger : UInt32) :
    ∃ entry, rebalance wire request existing latestLedger = .ok entry ∧
      entry.data.key = request.key := by
  obtain ⟨id, asset, amount⟩ := request
  cases existing with
  | none =>
      cases asset with
      | native => exact ⟨_, rfl, rfl⟩
      | credit trustline => exact ⟨_, rfl, rfl⟩
  | some found =>
      have named := own found rfl
      cases asset with
      | native =>
          cases data : found.data with
          | account account =>
              rw [data] at named
              refine ⟨_, by simp only [rebalance, data]; rfl, named⟩
          | _ =>
              rw [data] at named
              cases named
      | credit trustline =>
          cases data : found.data with
          | trustline tl =>
              rw [data] at named
              refine ⟨_, by simp only [rebalance, data]; rfl, named⟩
          | _ =>
              rw [data] at named
              cases named

/-- Under an instance key of its own, an entry is contract data. -/
theorem preservedStorage_of_own {request : EtchRequest} {existing : Option LedgerEntry}
    (own : ∀ entry, existing = some entry → entry.data.key = request.instanceKey)
    {e : HandlerError} (failed : preservedStorage wire existing = .error e) :
    ¬e.KindMismatch wire := by
  unfold preservedStorage at failed
  cases existing with
  | none => cases failed
  | some found =>
      have named := own found rfl
      cases data : found.data with
      | contractData cd =>
          cases val : cd.val with
          | contractInstance executable storage =>
              simp only [data, val] at failed
              cases failed
          | _ =>
              simp only [data, val] at failed
              cases failed
              exact not_kindMismatch_notInstance _
      | _ =>
          rw [data] at named
          cases named

theorem keyed_setClassicBalance (request : BalanceRequest) :
    Keyed wire (setClassicBalance wire request : Handler X Response) := by
  refine keyed_send trivial fun existing shown => ?_
  obtain ⟨entry, built, own⟩ := rebalance_of_own wire
    (fun _ => single_of_showsCoherent shown) existing.latestLedger
  rw [built, decoded_ok_bind]
  exact keyed_ask own fun _ => keyed_pure _

theorem keyed_handleSetTokenBalance (request : TokenBalanceRequest) :
    Keyed wire (handleSetTokenBalance world wire request : Handler X Response) := by
  refine keyed_ask trivial fun sim => ?_
  apply keyed_decodedParams (InvalidOnly.tokenBalance wire _)
  intro current _
  apply keyed_decoded
  · intro e failed
    unfold subI128 at failed
    split at failed
    · cases failed
      exact not_kindMismatch_panic _
    · cases failed
  intro delta _
  split
  · exact keyed_pure _
  apply keyed_decodedParams (InvalidOnly.balanceChange delta)
  intro change _
  refine keyed_ask trivial fun sent => ?_
  split
  · exact keyed_error (not_kindMismatch_invalidParams _)
  · exact keyed_ask trivial fun _ => keyed_pure _

theorem keyed_etch (request : EtchRequest) :
    Keyed wire (etch wire request : Handler X Response) := by
  refine keyed_ask rfl fun _ => keyed_send trivial fun existing shown => ?_
  apply keyed_decoded
  · intro e failed
    exact preservedStorage_of_own (fun _ => single_of_showsCoherent shown) failed
  intro storage _
  exact keyed_write rfl

/-- **Every handler keeps keys and entries together**, if an explicit
`fork_setLedgerEntry` does. -/
theorem keyed_dispatch {method : String} {params : wire.Json}
    (explicit : method = "fork_setLedgerEntry" → ∀ write,
      decodeSetLedgerEntry wire params = .ok write → write.entry.data.key = write.key) :
    Keyed wire (dispatch world wire method params) := by
  unfold dispatch
  split
  -- `getHealth` to `getLatestLedger`
  · exact keyed_ask trivial fun _ => keyed_pure _
  · exact keyed_ask trivial fun _ => keyed_pure _
  · exact keyed_ask trivial fun _ => keyed_pure _
  · exact keyed_ask trivial fun _ => keyed_pure _
  -- `getLedgers` to `getTransaction`
  · exact keyed_decodedParams (.decodeGetLedgers wire params) fun _ _ =>
      keyed_ask trivial fun _ => keyed_pure _
  · exact keyed_decodedParams (.decodeGetLedgerEntries wire params) fun _ _ =>
      keyed_ask trivial fun _ => keyed_pure _
  · exact keyed_decodedParams (.decodeSimulateTransaction wire params) fun _ _ =>
      keyed_ask trivial fun _ => keyed_pure _
  · exact keyed_decodedParams (.decodeSendTransaction wire params) fun _ _ =>
      keyed_ask trivial fun _ => keyed_ask trivial fun _ => keyed_ask trivial fun _ =>
        keyed_pure _
  · exact keyed_decodedParams (.decodeGetTransaction wire params) fun _ _ =>
      keyed_ask trivial fun _ => keyed_ask trivial fun _ => keyed_pure _
  -- the direct writes
  · exact keyed_decodedParams (.decodeSetLedgerEntry wire params) fun write parsed =>
      keyed_write (explicit rfl write parsed)
  · apply keyed_decodedParams (.decodeSetStorage wire params)
    intro write parsed
    have own : write.entry.data.key = write.key := by
      simp only [decodeSetStorage, except_bind_eq_ok] at parsed
      obtain ⟨_, _, _, _, _, _, _, _, _, _, _, _, built⟩ := parsed
      cases built
      rfl
    exact keyed_write own
  · apply keyed_decodedParams (.decodeSetCode world wire params)
    rintro ⟨hash, write⟩ parsed
    have own : write.entry.data.key = write.key := by
      simp only [decodeSetCode, except_bind_eq_ok] at parsed
      obtain ⟨_, _, _, _, _, _, built⟩ := parsed
      cases built
      rfl
    exact keyed_write own
  -- `fork_setBalance`
  · apply keyed_decodedParams (.decodeSetBalance wire params)
    intro request _
    cases request with
    | inl request => exact keyed_setClassicBalance request
    | inr request => exact keyed_handleSetTokenBalance request
  -- `fork_etch`
  · exact keyed_decodedParams (.decodeEtch world wire params) fun request _ => keyed_etch request
  -- `fork_closeLedgers`
  · exact keyed_decodedParams (.decodeCloseLedgers wire params) fun _ _ =>
      keyed_ask trivial fun _ => keyed_pure _
  · refine keyed_error ?_
    rintro ⟨other, same | same | same⟩ <;> cases same

/-! ## Runs -/

/-- **Keys and entries agree.**  In every interleaving of requests on a fork that
was built, each entry lies under its own key; no request ends in a mismatch; and a
bump that finds no account finds no entry. -/
theorem coherent_requests {κ : Type} [DecidableEq κ] {format : SnapshotFormat} {site : Site}
    {disk : Disk format} {config : ForkConfig} {server : Server X}
    {requests : κ → String × wire.Json} {schedule : List κ}
    {reached : Clients κ (Command X) Command.Reply ActorError (Server X)
      (Except HandlerError Response)}
    (upstream : world.client.Coherent) (host : world.HostCoherent)
    (file : CoherentFile format disk config)
    (spawned : Server.spawn format site disk config = .ok server)
    (explicit : ∀ k write, (requests k).1 = "fork_setLedgerEntry" →
      decodeSetLedgerEntry wire (requests k).2 = .ok write → write.entry.data.key = write.key)
    (ran : Clients.run (Server.step world) schedule (concurrently world wire requests server) =
      reached) :
    Coherent reached.server.worker.env.source.held ∧
      (∀ k e, reached.progs k = .ok (.ret (.error e)) → ¬e.KindMismatch wire) ∧
      ∀ hostFunction sourceAccount,
        let source := reached.server.worker.beforeBump world hostFunction sourceAccount
        (source.bumpAccountSeq sourceAccount).1 = none →
          source.held (.account sourceAccount) = none := by
  have start : Coherent server.worker.env.source.held := by
    unfold Server.spawn at spawned
    obtain ⟨env, built, rfl⟩ := except_map_eq_ok.mp spawned
    exact coherent_build file built
  have handlers (k : κ) (p : Handler X Response)
      (atStart : (concurrently world wire requests server).progs k = .ok p) : Keyed wire p := by
    cases atStart
    exact keyed_dispatch fun isExplicit write => explicit k write isExplicit
  obtain ⟨coherent, ends⟩ := Clients.run_meets (Server.step world)
    (fun server : Server X => Coherent server.worker.env.source.held)
    (Server.coherent_step upstream host) schedule start handlers
  rw [ran] at coherent ends
  refine ⟨coherent, fun k e failed => ends k _ failed e rfl, ?_⟩
  intro hostFunction sourceAccount source notBumped
  exact RpcSnapshotSource.bumpAccountSeq_finds_account
    (Worker.coherent_beforeBump upstream host coherent hostFunction sourceAccount) notBumped

end

namespace Sample

theorem clientCoherent : world.client.Coherent := by
  intro n key fetched answered
  cases answered

/-- The token contract writes a slot, if anything. -/
theorem hostCoherent : world.HostCoherent := by
  have slot {contract holder : ScAddress} {val : ScVal} {change : LedgerEntryChange xdr}
      (mem : change ∈ [slotChange contract holder val]) {found : EntryWithLiveUntil}
      (present : change.newValue = some found) : found.1.data.key = change.key := by
    rw [List.mem_singleton] at mem
    subst mem
    cases present
    rfl
  have move {contract holder : ScAddress} {delta : Int} {slotFound : Option EntryWithLiveUntil}
      {change : LedgerEntryChange xdr}
      (mem : change ∈ (moveBalance contract holder delta slotFound).changesToApply)
      {found : EntryWithLiveUntil} (present : change.newValue = some found) :
      found.1.data.key = change.key := by
    unfold moveBalance at mem
    split at mem
    · cases mem
    split at mem
    · exact slot mem present
    · cases mem
  intro info hostFunction sourceAccount ledger _ change mem found present
  change change ∈ ((invoke info hostFunction sourceAccount).value ledger).changesToApply at mem
  unfold invoke at mem
  split at mem
  · rename_i invocation
    split at mem
    -- `balance`
    · split at mem
      · rw [Prog.value_ask, Prog.value_ret, reportBalance] at mem
        split at mem <;> cases mem
      · cases mem
    -- `mint` and `burn`
    · split at mem
      · exact move mem present
      split at mem
      · exact move mem present
      · cases mem
    -- `init`
    · split at mem
      · rw [Prog.value_ask] at mem
        split at mem
        · exact slot mem present
        · cases mem
      · cases mem
    · cases mem
  · cases mem

/-- One client sets a balance and another etches a contract. -/
def balanceAndEtch : Bool → String × Json
  | true => ("fork_setBalance", .setBalance ⟨"G1", "77", none⟩)
  | false => ("fork_etch", .etch ⟨"C1", "wasm", none⟩)

def codeWire : Wire xdr := wire [("wasm", .raw [0])]

/-- The two requests in the order of a schedule, on a fork just built. -/
def balanceAndEtchAfter (schedule : List Bool) :
    Clients Bool (Command xdr) Command.Reply ActorError (Server xdr)
      (Except HandlerError Response) :=
  Clients.run (Server.step world) schedule (concurrently world codeWire balanceAndEtch started)

end Sample

open Sample in
theorem coherent_requests_balanceAndEtch :
    let reached := balanceAndEtchAfter [true, false, false, true, false, false]
    Coherent reached.server.worker.env.source.held ∧
      (∀ k e, reached.progs k = .ok (.ret (.error e)) → ¬e.KindMismatch codeWire) ∧
      ∀ hostFunction sourceAccount,
        let source := reached.server.worker.beforeBump world hostFunction sourceAccount
        (source.bumpAccountSeq sourceAccount).1 = none →
          source.held (.account sourceAccount) = none := by
  have noFile : CoherentFile snapshotFormat (fun _ => none) config := by
    intro path entries configured loaded
    cases loaded
  have spawned : Server.spawn snapshotFormat site (fun _ => none) config = .ok started := rfl
  refine coherent_requests clientCoherent hostCoherent noFile spawned ?_ rfl
  intro k write isExplicit
  cases k with
  | true => exact absurd isExplicit (by decide)
  | false => exact absurd isExplicit (by decide)

end SorobanFork
