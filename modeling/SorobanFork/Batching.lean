import SorobanFork.ForkOfFork
import SorobanFork.Retry

/-!
# Batching

A call of `fetchEntries` as its upstream sees it: attempt by attempt, in the log of
the run.  The attempts fall into groups, one for each request: failures that may be
retried, and a last attempt that gives the request its outcome (`Attempted`).  The
upstream answers a request key by key, from a table, or fails it (`AnswersByKey`).

Then the keys go out in order, each once, and what comes back does not depend on
how they were cut into batches (`batchedFetch_iff`): it is what the table has for
the keys, decoded, or the error of the first request that came to one.  It takes
that `retries + 1` is a `u32`, unless there are no keys.
-/

namespace SorobanFork

open Lib

/-- What comes of a request. -/
abbrev Outcome : Type := Except RpcFailure (JsonRpcResponse GetLedgerEntriesResult)

/-- The requests that were made, with what came of them. -/
abbrev RequestLog : Type := List ((_ : List String) × Outcome)

/-- The attempts that reached upstream, with what it answered. -/
abbrev AttemptLog : Type := List ((_ : List String) × Attempt GetLedgerEntriesResult)

/-- The attempts at a request that has so many retries, and what comes of it. -/
inductive Attempted (request : List String) : Nat → Outcome → AttemptLog → Prop
  /-- There is none after an attempt that ends the request, or without retries. -/
  | last {retries : Nat} {attempt : Attempt GetLedgerEntriesResult}
    (stops : attempt.Ends ∨ retries = 0) :
    Attempted request retries attempt.result [⟨request, attempt⟩]
  | retry {retries : Nat} {outcome : Outcome} {tries : AttemptLog} (error : ForkError)
    (rest : Attempted request retries outcome tries) :
    Attempted request (retries + 1) outcome (⟨request, .error (.retry error)⟩ :: tries)

section

variable {X : Xdr} (wire : Wire X)

/-- The entries that an outcome adds, or the failure that it ends the fetching with. -/
def batchResult : Outcome → Except RpcFailure (List FetchedEntry)
  | .error failure => .error failure
  | .ok response => (decodeBatch wire response).mapError .error

/-- The requests for all batches. -/
def requestsFor (n : Nat) (keys : List LedgerKey) : List (List String) :=
  (chunks n keys).map (·.map (encodeKey wire))

/-- The upstream has one entry or none for a key, and answers the keys of a request in
order; it may also fail. -/
def AnswersByKey {σ : Type} (table : String → Option EntryResult)
    (upstream : List String → σ → Except Empty (Attempt GetLedgerEntriesResult) × σ) : Prop :=
  ∀ {request s response s' result}, upstream request s = (.ok (.ok response), s') →
    response.intoResult = .ok result → result.entries.getD [] = request.filterMap table

/-- How the fetching ends, of `requests` to make, after those in `log`. -/
inductive Fetched (table : String → Option EntryResult) (requests : List (List String))
    (log : RequestLog) : Except RpcFailure (List FetchedEntry) → Prop
  /-- All requests were made, each with an outcome that has entries; together they are
  the entries that the table has for the keys, decoded. -/
  | complete {entries : List FetchedEntry}
    (made : log.map (·.1) = requests)
    (fine : ∀ x ∈ log, ∃ entries, batchResult wire x.2 = .ok entries)
    (decoded : (requests.flatten.filterMap table).mapM (decodeEntry wire) = .ok entries) :
    Fetched table requests log (.ok entries)
  /-- The last request made is the first that came to a failure. -/
  | failed {request : List String} {outcome : Outcome} {failure : RpcFailure}
    (before : RequestLog) (later : List (List String))
    (last : log = before ++ [⟨request, outcome⟩])
    (made : log.map (·.1) ++ later = requests)
    (fine : ∀ x ∈ before, ∃ entries, batchResult wire x.2 = .ok entries)
    (first : batchResult wire outcome = .error failure) :
    Fetched table requests log (.error failure)

/-- A run of `fetchEntries` that makes the requests in `sent`, each with a group of attempts
upstream, and ends with `out`. -/
structure BatchedFetch {σ : Type} (table : String → Option EntryResult) (overflowChecks : Bool)
    (config : RpcConfig)
    (upstream : List String → σ → Except Empty (Attempt GetLedgerEntriesResult) × σ)
    (keys : List LedgerKey) (s s' : σ) (sent : RequestLog) (groups : List AttemptLog)
    (out : Except RpcFailure (List FetchedEntry)) : Prop where
  /-- Upstream sees the attempts of the groups, one after another, and no others. -/
  ran : (fetchEntries wire overflowChecks config keys).run (Prog.logged upstream) (s, []) =
    (.ok out, s', groups.flatten)
  attempted : List.Forall₂
    (fun request tries => Attempted request.1 config.retries.toNat request.2 tries) sent groups
  /-- The keys are in the requests in order, each once. -/
  inOrder : (requestsFor wire config.maxKeysPerRequest keys).flatten = keys.map (encodeKey wire)
  fewest : (requestsFor wire config.maxKeysPerRequest keys).length =
    (keys.length + config.maxKeysPerRequest - 1) / config.maxKeysPerRequest
  small : ∀ request ∈ requestsFor wire config.maxKeysPerRequest keys,
    request.length ≤ config.maxKeysPerRequest
  fetched : Fetched wire table (requestsFor wire config.maxKeysPerRequest keys) sent out
  /-- What is fetched is the same for every batch size. -/
  decoded : ∀ entries, out = .ok entries →
    ((keys.map (encodeKey wire)).filterMap table).mapM (decodeEntry wire) = .ok entries

end

section

variable {X : Xdr} {wire : Wire X} {overflowChecks : Bool} {config : RpcConfig}
  {table : String → Option EntryResult} {σ : Type}
  {upstream : List String → σ → Except Empty (Attempt GetLedgerEntriesResult) × σ}
  {request : List String} {requests : List (List String)} {outcome : Outcome}
  {failure : RpcFailure} {entries : List FetchedEntry}
  {out : Except RpcFailure (List FetchedEntry)} {keys : List LedgerKey} {s s' : σ}

/-! ## One request -/

theorem Attempted.ne_nil {retries : Nat} {tries : AttemptLog}
    (attempted : Attempted request retries outcome tries) : tries ≠ [] := by
  cases attempted with
  | last => exact List.cons_ne_nil _ _
  | retry => exact List.cons_ne_nil _ _

/-- The attempts stop at one that ends the request, and when there are no retries left. -/
theorem run_attempts_stop {retries : Nat} {attempt : Attempt GetLedgerEntriesResult}
    (served : upstream request s = (.ok attempt, s')) (lastError : Option ForkError)
    (log : AttemptLog) (stops : attempt.Ends ∨ retries = 0) :
    (attempts request (retries + 1) lastError).run (Prog.logged upstream) (s, log) =
      (.ok attempt.result, s', log ++ [⟨request, attempt⟩]) := by
  rw [attempts, Prog.run_ask_ok (Prog.logged_ok served)]
  rcases attempt with (e | e) | parsed
  · have noneLeft : ¬0 < retries := Nat.not_lt_of_le (Nat.le_of_eq (stops.resolve_left id))
    simp only [noneLeft, if_false]
    rfl
  · rfl
  · rfl

/-- **The attempts** at a request, with `retries` left after the first; a response among
them came from upstream. -/
theorem run_attempts (retries : Nat) (lastError : Option ForkError) (s : σ) (log : AttemptLog) :
    ∃ outcome s' tries, (attempts request (retries + 1) lastError).run (Prog.logged upstream)
        (s, log) = (.ok outcome, s', log ++ tries) ∧
      Attempted request retries outcome tries ∧
      ∀ response, outcome = .ok response → ∃ t, upstream request t = (.ok (.ok response), s') := by
  induction retries generalizing lastError s log with
  | zero =>
      rcases served : upstream request s with ⟨impossible | attempt, s₁⟩
      · cases impossible
      · exact ⟨_, s₁, _, run_attempts_stop served lastError log (.inr rfl), .last (.inr rfl),
          fun response same => ⟨s, result_eq_ok_iff.mp same ▸ served⟩⟩
  | succ retries ih =>
      rcases served : upstream request s with ⟨impossible | attempt, s₁⟩
      · cases impossible
      by_cases ends : attempt.Ends
      · exact ⟨_, s₁, _, run_attempts_stop served lastError log (.inl ends), .last (.inl ends),
          fun response same => ⟨s, result_eq_ok_iff.mp same ▸ served⟩⟩
      · obtain ⟨e, rfl⟩ := exists_retry_of_not_ends ends
        obtain ⟨outcome, s', tries, ran, attempted, answered⟩ :=
          ih (some e) s₁ (log ++ [⟨request, .error (.retry e)⟩])
        refine ⟨outcome, s', ⟨request, .error (.retry e)⟩ :: tries, ?_, .retry e attempted,
          answered⟩
        rw [attempts, Prog.run_ask_ok (Prog.logged_ok served)]
        simp only [Nat.succ_pos, if_true]
        rw [ran, List.append_assoc]
        rfl

/-- The entries that a response adds are what the table has for the keys. -/
theorem entries_of_answered (answers : AnswersByKey table upstream)
    (answered : ∀ response, outcome = .ok response →
      ∃ t, upstream request t = (.ok (.ok response), s'))
    (fine : batchResult wire outcome = .ok entries) :
    (request.filterMap table).mapM (decodeEntry wire) = .ok entries := by
  rcases outcome with failure | response
  · cases fine
  · obtain ⟨t, attempted⟩ := answered response rfl
    rw [batchResult, decodeBatch] at fine
    rcases carried : response.intoResult with e | result
    · rw [carried] at fine
      cases fine
    · rw [carried, except_ok_bind, answers attempted carried] at fine
      exact except_mapError_eq_ok.mp fine

/-- A batch adds its entries, or ends the fetching with its failure. -/
theorem fetchBatches_cons (batch : List LedgerKey) (rest : List (List LedgerKey))
    (results : List FetchedEntry) :
    fetchBatches wire overflowChecks config (batch :: rest) results =
      (rpcPost overflowChecks config (batch.map (encodeKey wire))).bind fun outcome =>
        match batchResult wire outcome with
        | .error failure => .ret (.error failure)
        | .ok entries => fetchBatches wire overflowChecks config rest (results ++ entries) := by
  rw [fetchBatches]
  refine congrArg (Prog.bind _) (funext fun outcome => ?_)
  rcases outcome with failure | response
  · rfl
  · rcases decoded : decodeBatch wire response with e | entries
    · simp only [batchResult, decoded, Except.mapError]
    · simp only [batchResult, decoded, Except.mapError]

/-! ## All requests -/

/-- Nothing is fetched without requests. -/
theorem fetched_nil : Fetched wire table [] [] (.ok []) := .complete rfl nofun rfl

/-- A request that fails ends the fetching. -/
theorem fetched_failed (requests : List (List String))
    (first : batchResult wire outcome = .error failure) :
    Fetched wire table (request :: requests) [⟨request, outcome⟩] (.error failure) :=
  .failed [] requests rfl rfl nofun first

/-- The entries of a request that does not fail come before those of the rest. -/
theorem fetched_cons {log : RequestLog} (fine : batchResult wire outcome = .ok entries)
    (decoded : (request.filterMap table).mapM (decodeEntry wire) = .ok entries)
    (rest : Fetched wire table requests log out) :
    Fetched wire table (request :: requests) (⟨request, outcome⟩ :: log)
      (out.map (entries ++ ·)) := by
  cases rest with
  | complete made fine' decoded' =>
      refine .complete (congrArg _ made) (List.forall_mem_cons.mpr ⟨⟨_, fine⟩, fine'⟩) ?_
      rw [List.flatten_cons, List.filterMap_append, List.mapM_append, decoded, decoded']
      rfl
  | failed before later last made fine' first =>
      exact .failed (⟨request, outcome⟩ :: before) later (congrArg _ last)
        (congrArg (List.cons request) made) (List.forall_mem_cons.mpr ⟨⟨_, fine⟩, fine'⟩) first

/-- **The loop** over the batches, from any results on. -/
theorem run_fetchBatches (fits : config.retries ≠ UInt32.ofNat (2 ^ 32 - 1))
    (answers : AnswersByKey table upstream) (batches : List (List LedgerKey))
    (results : List FetchedEntry) (s : σ) (log : AttemptLog) :
    ∃ out s' sent groups,
      (fetchBatches wire overflowChecks config batches results).run (Prog.logged upstream)
          (s, log) = (.ok (out.map (results ++ ·)), s', log ++ groups.flatten) ∧
      List.Forall₂ (fun request tries =>
        Attempted request.1 config.retries.toNat request.2 tries) sent groups ∧
      Fetched wire table (batches.map (·.map (encodeKey wire))) sent out := by
  induction batches generalizing results s log with
  | nil =>
      refine ⟨.ok [], s, [], [], ?_, .nil, fetched_nil⟩
      rw [Except.map, List.append_nil, List.flatten_nil, List.append_nil]
      rfl
  | cons batch rest ih =>
      obtain ⟨outcome, s₁, tries, posted, attempted, answered⟩ :=
        @run_attempts σ upstream (batch.map (encodeKey wire)) config.retries.toNat none s log
      rw [← @rpcPost_of_ne _ _ overflowChecks _ _ fits] at posted
      rw [fetchBatches_cons, Prog.run_bind_ok posted]
      rcases added : batchResult wire outcome with failure | entries
      · refine ⟨.error failure, s₁, [⟨_, outcome⟩], [tries], ?_, .cons attempted .nil,
          fetched_failed _ added⟩
        rw [List.flatten_singleton]
        rfl
      · obtain ⟨out, s', sent, groups, ran, grouped, fetched⟩ :=
          ih (results ++ entries) s₁ (log ++ tries)
        have decoded := entries_of_answered @answers answered added
        refine ⟨out.map (entries ++ ·), s', ⟨batch.map (encodeKey wire), outcome⟩ :: sent,
          tries :: groups, ?_, .cons attempted grouped, fetched_cons added decoded fetched⟩
        show (fetchBatches wire overflowChecks config rest (results ++ entries)).run _ _ = _
        rw [ran, List.flatten_cons, List.append_assoc]
        cases out with
        | error failure => rfl
        | ok entries' => rw [Except.map, Except.map, Except.map, List.append_assoc]

theorem flatten_requestsFor {n : Nat} (positive : 0 < n) (keys : List LedgerKey) :
    (requestsFor wire n keys).flatten = keys.map (encodeKey wire) := by
  rw [requestsFor, ← List.map_flatten, flatten_chunks positive]

theorem length_le_of_mem_requestsFor {n : Nat} (mem : request ∈ requestsFor wire n keys) :
    request.length ≤ n := by
  obtain ⟨batch, batched, rfl⟩ := List.mem_map.mp mem
  rw [List.length_map]
  exact length_le_of_mem_chunks batched

/-- What was fetched in batches is what the table has for the keys. -/
theorem decoded_of_fetched {n : Nat} (positive : 0 < n) {sent : RequestLog}
    (fetched : Fetched wire table (requestsFor wire n keys) sent (.ok entries)) :
    ((keys.map (encodeKey wire)).filterMap table).mapM (decodeEntry wire) = .ok entries := by
  rw [← flatten_requestsFor positive]
  cases fetched with
  | complete made fine decoded => exact decoded

/-- The parts of a run make a batched fetch; the shape of the requests does not depend
on the run. -/
theorem batchedFetch_of_run (positive : 0 < config.maxKeysPerRequest) {sent : RequestLog}
    {groups : List AttemptLog}
    (ran : (fetchEntries wire overflowChecks config keys).run (Prog.logged upstream) (s, []) =
      (.ok out, s', groups.flatten))
    (attempted : List.Forall₂ (fun request tries =>
      Attempted request.1 config.retries.toNat request.2 tries) sent groups)
    (fetched : Fetched wire table (requestsFor wire config.maxKeysPerRequest keys) sent out) :
    BatchedFetch wire table overflowChecks config upstream keys s s' sent groups out where
  ran := ran
  attempted := attempted
  inOrder := flatten_requestsFor positive keys
  fewest := by rw [requestsFor, List.length_map, length_chunks positive]
  small _ := length_le_of_mem_requestsFor
  fetched := fetched
  decoded entries fine := decoded_of_fetched positive (fine ▸ fetched)

/-- A fetch that fails does so at an attempt. -/
theorem BatchedFetch.attempts_ne_nil {sent : RequestLog} {groups : List AttemptLog}
    (batched : BatchedFetch wire table overflowChecks config upstream keys s s' sent groups
      (.error failure)) : groups.flatten ≠ [] := by
  have attempted := batched.attempted
  have fetched := batched.fetched
  cases attempted with
  | nil =>
      cases fetched with
      | failed before later last =>
          exact absurd last.symm
            (List.append_ne_nil_of_right_ne_nil before (List.cons_ne_nil _ []))
  | cons first rest =>
      rw [List.flatten_cons]
      exact List.append_ne_nil_of_left_ne_nil first.ne_nil _

/-- With the greatest number of retries a first request makes no attempt, and fails. -/
theorem run_fetchEntries_of_eq (positive : 0 < config.maxKeysPerRequest)
    (most : config.retries = UInt32.ofNat (2 ^ 32 - 1)) (nonempty : keys ≠ []) (s : σ) :
    ∃ failure, (fetchEntries wire overflowChecks config keys).run (Prog.logged upstream) (s, []) =
      (.ok (.error failure), s, []) := by
  rcases cut : chunks config.maxKeysPerRequest keys with _ | ⟨batch, rest⟩
  · have whole := flatten_chunks positive keys
    rw [cut, List.flatten_nil] at whole
    exact absurd whole.symm nonempty
  · obtain ⟨failure, posts⟩ := @rpcPost_of_eq _ GetLedgerEntriesResult overflowChecks config
      (batch.map (encodeKey wire)) most
    refine ⟨failure, ?_⟩
    rw [fetchEntries_eq positive, cut, fetchBatches_cons, posts]
    rfl

/-- **Batching is invisible.**  The keys go out in order, each once, in as few requests
as the batch size allows.  If they are all fetched, the result is what the table has
for the keys, decoded, whatever the batch size; else it is the failure of the first
request that comes to one, which is the last that is made.  So it is unless the number
of attempts overflows, and then nothing is sent. -/
theorem batchedFetch_iff (overflowChecks : Bool) (positive : 0 < config.maxKeysPerRequest)
    (answers : AnswersByKey table upstream) (keys : List LedgerKey) (s : σ) :
    (∃ s' sent groups out,
        BatchedFetch wire table overflowChecks config upstream keys s s' sent groups out) ↔
      config.retries ≠ UInt32.ofNat (2 ^ 32 - 1) ∨ keys = [] := by
  constructor
  · rintro ⟨s', sent, groups, out, batched⟩
    by_contra failing
    obtain ⟨most, nonempty⟩ := not_or.mp failing
    obtain ⟨failure, ran⟩ := @run_fetchEntries_of_eq X wire overflowChecks config σ upstream keys
      positive (not_not.mp most) nonempty s
    rw [batched.ran] at ran
    obtain ⟨same, after⟩ := Prod.mk.inj ran
    obtain rfl := Except.ok.inj same
    exact batched.attempts_ne_nil (Prod.mk.inj after).2
  · rintro (fits | rfl)
    · obtain ⟨out, s', sent, groups, ran, attempted, fetched⟩ := @run_fetchBatches X wire
        overflowChecks config table σ upstream fits answers
        (chunks config.maxKeysPerRequest keys) [] s []
      have same : out.map (([] : List FetchedEntry) ++ ·) = out := by
        cases out <;> rfl
      rw [same, List.nil_append, ← fetchEntries_eq positive] at ran
      exact ⟨s', sent, groups, out, batchedFetch_of_run positive ran attempted fetched⟩
    · refine ⟨s, [], [], .ok [], batchedFetch_of_run positive ?_ .nil fetched_nil⟩
      rw [fetchEntries_eq positive]
      rfl

end

namespace Sample

/-- An upstream's entries: one of two accounts. -/
def batchTable (text : String) : Option EntryResult :=
  if text = "K2" then some ⟨"K2", "D2", 5, none⟩ else none

/-- It fails so many attempts, answers those after them, and counts them all. -/
def batchUpstream (failures : Nat) (request : List String) (tried : Nat) :
    Except Empty (Attempt GetLedgerEntriesResult) × Nat :=
  if tried < failures then (.ok (.error (.retry (.transport "HTTP 503"))), tried + 1)
  else (.ok (.ok ⟨some ⟨some (request.filterMap batchTable), 100⟩, none⟩), tried + 1)

theorem batchUpstream_answers (failures : Nat) :
    AnswersByKey batchTable (batchUpstream failures) := by
  intro request s response s' result served carried
  rw [batchUpstream] at served
  split at served
  · cases served
  · cases served
    cases carried
    rfl

end Sample

open Sample in
theorem batchedFetch_inTwoBatches :
    ∃ s' sent groups out, BatchedFetch (wire forkTexts) batchTable true ⟨3, 2⟩ (batchUpstream 2)
      forkKeys 0 s' sent groups out :=
  (batchedFetch_iff true (by decide) (batchUpstream_answers 2) forkKeys 0).mpr (.inl (by decide))

open Sample in
/-- With the greatest number of retries nothing is sent to an upstream that never fails. -/
theorem batchedFetch_fails_at_mostRetries :
    let config : RpcConfig := ⟨4294967295, 2⟩
    let fetched := fun overflowChecks =>
      (fetchEntries (wire forkTexts) overflowChecks config forkKeys).run
        (Prog.logged (batchUpstream 0)) (0, [])
    0 < config.maxKeysPerRequest ∧ AnswersByKey batchTable (batchUpstream 0) ∧
    fetched true = (.ok (.error (.panic "attempt to add with overflow")), 0, []) ∧
    fetched false = (.ok (.error (.error
      (.transport "retry loop exhausted with no recorded error"))), 0, []) ∧
    ¬∃ overflowChecks s' sent groups out, BatchedFetch (wire forkTexts) batchTable overflowChecks
      config (batchUpstream 0) forkKeys 0 s' sent groups out := by
  refine ⟨by decide, batchUpstream_answers 0, rfl, rfl, ?_⟩
  rintro ⟨overflowChecks, s', sent, groups, out, batched⟩
  obtain ⟨failure, ran⟩ := @run_fetchEntries_of_eq _ (wire forkTexts) overflowChecks
    ⟨4294967295, 2⟩ _ (batchUpstream 0) forkKeys (by decide) rfl nofun 0
  rw [batched.ran] at ran
  obtain ⟨same, after⟩ := Prod.mk.inj ran
  obtain rfl := Except.ok.inj same
  exact batched.attempts_ne_nil (Prod.mk.inj after).2

end SorobanFork
