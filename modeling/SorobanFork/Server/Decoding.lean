import SorobanFork.Server.Cheatcodes

/-!
# How decoding fails (`server/handlers.rs`)

Decoding the parameters of a request fails with `invalid_params` only, whatever
the method.  An internal error of a handler therefore tells about the fork, and
not about the request.
-/

namespace SorobanFork

open Lib

/-- A decoding fails with `invalid_params` only. -/
def InvalidOnly {α : Type} (value : Except HandlerError α) : Prop :=
  ∀ e, value = .error e → ∃ detail, e = invalidParams detail

namespace InvalidOnly

section

variable {α β : Type} {value : Except HandlerError α}

theorem ok (a : α) : InvalidOnly (.ok a) := by
  intro e failed
  cases failed

theorem error (detail : String) : InvalidOnly (.error (invalidParams detail) : Except _ α) := by
  intro e failed
  cases failed
  exact ⟨detail, rfl⟩

theorem bind {next : α → Except HandlerError β} (first : InvalidOnly value)
    (rest : ∀ a, InvalidOnly (next a)) : InvalidOnly (value >>= next) := by
  cases value with
  | error e =>
      intro e' failed
      cases failed
      exact first e rfl
  | ok a => exact rest a

theorem mapError {ε : Type} {value : Except ε α} {detail : ε → String} :
    InvalidOnly (value.mapError fun e => invalidParams (detail e)) := by
  cases value with
  | error e => exact error _
  | ok a => exact ok a

theorem ite {p : Prop} [Decidable p] {other : Except HandlerError α} (first : InvalidOnly value)
    (second : InvalidOnly other) : InvalidOnly (if p then value else other) := by
  split
  · exact first
  · exact second

end

section

variable {X : Xdr} (world : World X) (wire : Wire X) (params : wire.Json)

/-! ## Fields -/

theorem parseParams {α : Type} {method : String} {parse : wire.Json → Except String α} :
    InvalidOnly (parseParams wire method parse params) := mapError

theorem decodeBase64 (field text : String) : InvalidOnly (decodeBase64 wire field text) := mapError

theorem decodeContract (field text : String) : InvalidOnly (decodeContract wire field text) :=
  mapError

theorem decodePublicKey (field text : String) : InvalidOnly (decodePublicKey wire field text) :=
  mapError

theorem decodeXdr {α : Type} {codec : Codec X.Buf α} (field what : String) (bytes : X.Buf) :
    InvalidOnly (decodeXdr codec field what bytes) := by
  unfold SorobanFork.decodeXdr
  split
  · exact ok _
  · exact error _

theorem wasmBytes (wasm : X.Buf) : InvalidOnly (wasmBytes wasm) := ite (ok _) (error _)

theorem extractInvokeOp (env : TransactionEnvelope) : InvalidOnly (extractInvokeOp wire env) := by
  unfold SorobanFork.extractInvokeOp
  split
  · exact error _
  all_goals
    dsimp only
    split
    · split
      · exact ok _
      · exact error _
    · exact error _

theorem creditAsset (code : Bytes) (issuer : AccountId) :
    InvalidOnly (creditAsset code issuer) := by
  unfold SorobanFork.creditAsset
  split
  · exact error _
  split
  · exact ok _
  split
  · exact ok _
  · exact error _

theorem decodeClassicAsset (asset : AssetWire) : InvalidOnly (decodeClassicAsset wire asset) := by
  unfold SorobanFork.decodeClassicAsset
  split
  · exact bind (decodePublicKey wire _ _) fun issuer => bind (creditAsset _ _) fun _ => ok _
  · exact ok _

theorem decodeAmount (amount : String) : InvalidOnly (decodeAmount wire amount) := by
  unfold SorobanFork.decodeAmount
  split
  · exact error _
  · exact ite (error _) (ok _)

theorem decodeTokenAmount (amount : String) : InvalidOnly (decodeTokenAmount wire amount) := by
  unfold SorobanFork.decodeTokenAmount
  split
  · exact error _
  · exact ite (error _) (ok _)

theorem decodeKeys (i : Nat) (keys : List String) : InvalidOnly (decodeKeys wire i keys) := by
  induction keys generalizing i with
  | nil => exact ok _
  | cons raw rest ih =>
      exact bind (decodeBase64 wire _ _) fun bytes => bind (decodeXdr _ _ _) fun key =>
        bind (ih (i + 1)) fun keys => ok _

/-! ## Requests -/

theorem decodeGetLedgers : InvalidOnly (decodeGetLedgers wire params) :=
  ite (ok _) (parseParams wire params)

theorem decodeGetLedgerEntries : InvalidOnly (decodeGetLedgerEntries wire params) :=
  bind (parseParams wire params) fun _ => ite (error _) (decodeKeys wire 0 _)

theorem decodeSimulateTransaction : InvalidOnly (decodeSimulateTransaction wire params) :=
  bind (parseParams wire params) fun _ => bind (decodeBase64 wire _ _) fun _ =>
    bind (decodeXdr _ _ _) fun _ =>
      ite (bind (extractInvokeOp wire _) fun _ => ok _) (error _)

theorem decodeSendTransaction : InvalidOnly (decodeSendTransaction wire params) :=
  bind (parseParams wire params) fun _ => bind (decodeBase64 wire _ _) fun _ =>
    bind (decodeXdr _ _ _) fun _ => bind (extractInvokeOp wire _) fun _ => ok _

theorem decodeGetTransaction : InvalidOnly (decodeGetTransaction wire params) := by
  refine bind (parseParams wire params) fun parsed => ?_
  split
  · exact ok _
  · exact error _

theorem decodeSetLedgerEntry : InvalidOnly (decodeSetLedgerEntry wire params) :=
  bind (parseParams wire params) fun _ => bind (decodeBase64 wire _ _) fun _ =>
    bind (decodeXdr _ _ _) fun _ => bind (decodeBase64 wire _ _) fun _ =>
      bind (decodeXdr _ _ _) fun _ => ok _

theorem decodeSetStorage : InvalidOnly (decodeSetStorage wire params) :=
  bind (parseParams wire params) fun _ => bind (decodeContract wire _ _) fun _ =>
    bind (decodeBase64 wire _ _) fun _ => bind (decodeXdr _ _ _) fun _ =>
      bind (decodeBase64 wire _ _) fun _ => bind (decodeXdr _ _ _) fun _ => ok _

theorem decodeSetCode : InvalidOnly (decodeSetCode world wire params) :=
  bind (parseParams wire params) fun _ => bind (decodeBase64 wire _ _) fun _ =>
    bind (wasmBytes _) fun _ => ok _

theorem decodeSetBalance : InvalidOnly (decodeSetBalance wire params) := by
  refine bind (parseParams wire params) fun parsed =>
    bind (decodePublicKey wire _ _) fun account => ?_
  split
  · exact bind (decodeTokenAmount wire _) fun _ => bind (decodeContract wire _ _) fun _ => ok _
  · exact bind (decodeAmount wire _) fun _ => bind (decodeClassicAsset wire _) fun _ => ok _

theorem decodeEtch : InvalidOnly (decodeEtch world wire params) :=
  bind (parseParams wire params) fun _ => bind (decodeContract wire _ _) fun _ =>
    bind (decodeBase64 wire _ _) fun _ => bind (wasmBytes _) fun _ => ok _

theorem decodeCloseLedgers : InvalidOnly (decodeCloseLedgers wire params) := by
  unfold SorobanFork.decodeCloseLedgers
  split
  · exact ok _
  · exact bind (parseParams wire params) fun _ => ok _

/-! ## Replies -/

theorem tokenBalance (result : Except String ScVal) : InvalidOnly (tokenBalance wire result) := by
  unfold SorobanFork.tokenBalance
  split
  · exact ok _
  all_goals exact error _

theorem balanceChange (delta : I128) : InvalidOnly (balanceChange delta) := by
  unfold SorobanFork.balanceChange
  refine ite (ok _) ?_
  split
  · exact ok _
  · exact error _

end

end InvalidOnly

end SorobanFork
