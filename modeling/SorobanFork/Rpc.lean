import SorobanFork.Server.Types

/-!
# The RPC client (`rpc.rs`)

`fetchEntries` splits its keys into batches, posts one `getLedgerEntries`
request for each, retrying attempts that failed, and decodes the entries that
come back.  One attempt (`try_once`) is an HTTP exchange; the client is a program
that asks for attempts, so the same definition runs against any upstream.

Delays between attempts change no result (`translate_rpcPostTimed`); they are left
out here, as are timeouts.
-/

namespace SorobanFork

open Lib

structure RpcConfig : Type where
  retries : UInt32
  /-- A `usize`. -/
  maxKeysPerRequest : Nat
deriving DecidableEq

/-- Why an attempt failed, and whether another one may help. -/
inductive RetryDecision : Type
  | retry (error : ForkError)
  | fatal (error : ForkError)
deriving DecidableEq

/-- The JSON-RPC envelope of a response; `error` is the text of its JSON. -/
structure JsonRpcResponse (α : Type) : Type where
  result : Option α
  error : Option String
deriving DecidableEq

def JsonRpcResponse.intoResult {α : Type} (response : JsonRpcResponse α) : Except ForkError α :=
  match response.error with
  | some error => .error (.rpcError error)
  | none =>
    match response.result with
    | some result => .ok result
    | none => .error .rpcNoResult

structure EntryResult : Type where
  key : String
  xdr : String
  lastModifiedLedgerSeq : UInt32
  liveUntilLedgerSeq : Option UInt32
deriving DecidableEq

structure GetLedgerEntriesResult : Type where
  entries : Option (List EntryResult)
  latestLedger : UInt32
deriving DecidableEq

/-- What one attempt at a request gives. -/
abbrev Attempt (α : Type) : Type := Except RetryDecision (JsonRpcResponse α)

/-- How a call of the client fails: it returns an error, or panics. -/
inductive RpcFailure : Type
  | error (error : ForkError)
  | panic (message : String)
deriving DecidableEq

/-- A program that posts requests of type `Q` with results of type `α`. -/
abbrev Posts (Q α β : Type) : Type := Prog Q (fun _ => Attempt α) (Except RpcFailure β)

section Post

variable {Q α : Type}

/-- The attempts at a request that remain, after one that failed with `lastError`. -/
def attempts (request : Q) : Nat → Option ForkError → Posts Q α (JsonRpcResponse α)
  | 0, lastError =>
    .ret (.error (.error
      (lastError.getD (.transport "retry loop exhausted with no recorded error"))))
  | remaining + 1, _ =>
    .ask request fun
      | .ok parsed => .ret (.ok parsed)
      | .error (.retry e) =>
        if 0 < remaining then attempts request remaining (some e) else .ret (.error (.error e))
      | .error (.fatal e) => .ret (.error (.error e))

/-- `overflowChecks`: whether `retries + 1` panics or wraps when it overflows. -/
def rpcPost (overflowChecks : Bool) (config : RpcConfig) (request : Q) :
    Posts Q α (JsonRpcResponse α) :=
  if overflowChecks && config.retries == UInt32.ofNat (2 ^ 32 - 1) then
    .ret (.error (.panic "attempt to add with overflow"))
  else attempts request (config.retries + 1).toNat none

end Post

/-! ## Entries -/

/-- `slice::chunks`, for a list of at most `fuel` elements. -/
def chunksUpTo {α : Type} (n : Nat) : Nat → List α → List (List α)
  | 0, _ => []
  | _, [] => []
  | fuel + 1, a :: l => (a :: l).take n :: chunksUpTo n fuel ((a :: l).drop n)

/-- `slice::chunks`: pieces of `n` elements, the last one of what is left. -/
def chunks {α : Type} (n : Nat) (l : List α) : List (List α) := chunksUpTo n l.length l

section Entries

variable {X : Xdr} (wire : Wire X)

/-- Serialising a key cannot fail here. -/
def encodeKey (key : LedgerKey) : String := wire.base64Encode (X.ledgerKey.toXdr key)

/-- The entry around the data that came over the wire. -/
def decodeEntry (item : EntryResult) : Except ForkError FetchedEntry := do
  let entryBytes ← (wire.base64Decode item.xdr).mapError .base64
  match X.ledgerEntryData.fromXdr entryBytes with
  | some data =>
    return {
      entry :=
        { lastModifiedLedgerSeq := item.lastModifiedLedgerSeq
          data := data
          ext := .v0 }
      liveUntil := item.liveUntilLedgerSeq }
  | none => .error (.xdr s!"decode LedgerEntryData: {X.ledgerEntryData.errorText entryBytes}")

/-- The entries in the response to one batch. -/
def decodeBatch (response : JsonRpcResponse GetLedgerEntriesResult) :
    Except ForkError (List FetchedEntry) := do
  let result ← response.intoResult
  (result.entries.getD []).mapM (decodeEntry wire)

/-- Fetch the batches one after another, after `results`. -/
def fetchBatches (overflowChecks : Bool) (config : RpcConfig) :
    List (List LedgerKey) → List FetchedEntry →
      Posts (List String) GetLedgerEntriesResult (List FetchedEntry)
  | [], results => .ret (.ok results)
  | batch :: rest, results =>
    (rpcPost overflowChecks config (batch.map (encodeKey wire))).bind fun
      | .error failure => .ret (.error failure)
      | .ok response =>
        match decodeBatch wire response with
        | .error e => .ret (.error (.error e))
        | .ok entries => fetchBatches overflowChecks config rest (results ++ entries)

def fetchEntries (overflowChecks : Bool) (config : RpcConfig) (keys : List LedgerKey) :
    Posts (List String) GetLedgerEntriesResult (List FetchedEntry) :=
  if config.maxKeysPerRequest = 0 then .ret (.error (.panic "chunk size must be non-zero"))
  else fetchBatches wire overflowChecks config (chunks config.maxKeysPerRequest keys) []

/-- The last of the entries fetched for one key; `none` if it is absent. -/
def fetchEntry (overflowChecks : Bool) (config : RpcConfig) (key : LedgerKey) :
    Posts (List String) GetLedgerEntriesResult (Option FetchedEntry) :=
  (fetchEntries wire overflowChecks config [key]).bind fun
    | .error failure => .ret (.error failure)
    | .ok entries => .ret (.ok entries.getLast?)

end Entries

/-! ## What they do -/

section

variable {Q α : Type} {overflowChecks : Bool} {config : RpcConfig} {request : Q}

theorem toNat_totalAttempts (fits : config.retries ≠ UInt32.ofNat (2 ^ 32 - 1)) :
    (config.retries + 1).toNat = config.retries.toNat + 1 := by
  have below : config.retries.toNat ≠ 2 ^ 32 - 1 := fun same => fits (UInt32.toNat_inj.mp same)
  have bounded := config.retries.toNat_lt
  rw [UInt32.toNat_add, UInt32.toNat_one]
  omega

theorem noOverflow_of_ne (fits : config.retries ≠ UInt32.ofNat (2 ^ 32 - 1)) :
    (overflowChecks && config.retries == UInt32.ofNat (2 ^ 32 - 1)) = false := by
  rw [beq_eq_false_iff_ne.mpr fits, Bool.and_false]

/-- One more attempt is made than there are retries, unless the sum overflows. -/
theorem rpcPost_of_ne (fits : config.retries ≠ UInt32.ofNat (2 ^ 32 - 1)) :
    (rpcPost overflowChecks config request : Posts Q α (JsonRpcResponse α)) =
      attempts request (config.retries.toNat + 1) none := by
  rw [rpcPost, noOverflow_of_ne fits, toNat_totalAttempts fits]
  rfl

/-- With the greatest number of retries no attempt is made. -/
theorem rpcPost_of_eq (most : config.retries = UInt32.ofNat (2 ^ 32 - 1)) :
    ∃ failure, (rpcPost overflowChecks config request : Posts Q α (JsonRpcResponse α)) =
      .ret (.error failure) := by
  have wrapped : (config.retries + 1).toNat = 0 := by
    rw [most]
    rfl
  cases overflowChecks with
  | true =>
      have checked : (true && config.retries == UInt32.ofNat (2 ^ 32 - 1)) = true := by
        rw [most, Bool.true_and, beq_self_eq_true]
      exact ⟨_, if_pos checked⟩
  | false =>
      have checked : ¬((false && config.retries == UInt32.ofNat (2 ^ 32 - 1)) = true) := by
        rw [Bool.false_and]
        exact Bool.false_ne_true
      have posted : (rpcPost false config request : Posts Q α (JsonRpcResponse α)) =
          attempts request (config.retries + 1).toNat none := if_neg checked
      rw [wrapped] at posted
      exact ⟨_, posted⟩

end

section

variable {α : Type} {n : Nat}

theorem flatten_chunks (positive : 0 < n) (l : List α) : (chunks n l).flatten = l := by
  have enough {fuel : Nat} {l : List α} (fits : l.length ≤ fuel) :
      (chunksUpTo n fuel l).flatten = l := by
    induction fuel generalizing l with
    | zero => rw [List.eq_nil_of_length_eq_zero (Nat.le_zero.mp fits), chunksUpTo, List.flatten_nil]
    | succ fuel ih =>
        cases l with
        | nil => rfl
        | cons a l =>
            have shorter : ((a :: l).drop n).length ≤ fuel := by
              rw [List.length_drop]
              omega
            rw [chunksUpTo, List.flatten_cons, ih shorter, List.take_append_drop]
  exact enough (Nat.le_refl _)

/-- There is a piece for every `n` elements begun. -/
theorem length_chunks (positive : 0 < n) (l : List α) :
    (chunks n l).length = (l.length + n - 1) / n := by
  have none : (0 + n - 1) / n = 0 := Nat.div_eq_of_lt (by omega)
  have enough {fuel : Nat} {l : List α} (fits : l.length ≤ fuel) :
      (chunksUpTo n fuel l).length = (l.length + n - 1) / n := by
    induction fuel generalizing l with
    | zero =>
        rw [List.eq_nil_of_length_eq_zero (Nat.le_zero.mp fits)]
        exact none.symm
    | succ fuel ih =>
        cases l with
        | nil => exact none.symm
        | cons a l =>
            have shorter : ((a :: l).drop n).length ≤ fuel := by
              rw [List.length_drop]
              omega
            rw [chunksUpTo, List.length_cons, ih shorter, List.length_drop, List.length_cons,
              ← Nat.add_div_right _ positive]
            by_cases more : n < l.length + 1
            · congr 1
              omega
            · -- one piece takes all of the list
              rw [Nat.sub_eq_zero_of_le (Nat.le_of_not_lt more), Nat.add_div_right _ positive, none,
                show l.length + 1 + n - 1 = l.length + n by omega, Nat.add_div_right _ positive,
                Nat.div_eq_of_lt (by omega)]
  exact enough (Nat.le_refl _)

theorem length_le_of_mem_chunks {l chunk : List α} (mem : chunk ∈ chunks n l) :
    chunk.length ≤ n := by
  have each {fuel : Nat} {l : List α} (mem : chunk ∈ chunksUpTo n fuel l) : chunk.length ≤ n := by
    induction fuel generalizing l with
    | zero => cases mem
    | succ fuel ih =>
        cases l with
        | nil => cases mem
        | cons a l =>
            rcases List.mem_cons.mp mem with rfl | mem
            · exact List.length_take_le n (a :: l)
            · exact ih mem
  exact each mem

theorem ne_nil_of_mem_chunks (positive : 0 < n) {l chunk : List α} (mem : chunk ∈ chunks n l) :
    chunk ≠ [] := by
  have each {fuel : Nat} {l : List α} (mem : chunk ∈ chunksUpTo n fuel l) : chunk ≠ [] := by
    induction fuel generalizing l with
    | zero => cases mem
    | succ fuel ih =>
        cases l with
        | nil => cases mem
        | cons a l =>
            rcases List.mem_cons.mp mem with rfl | mem
            · intro empty
              have short := congrArg List.length empty
              simp only [List.length_take, List.length_cons, List.length_nil] at short
              omega
            · exact ih mem
  exact each mem

end

end SorobanFork
