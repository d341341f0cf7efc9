import SorobanFork.ErrorReplies
import SorobanFork.ReadModifyWrite

/-!
# `fork_setBalance` on a Classic asset

A request names an account and an asset, and the asset by its code and issuer.
`setBalance_sets_one_balance` is what an answered request does to the fork: the
entry under the key of account and asset has the balance, its other fields are
the ones it had, or those of a fresh entry, and no other key answers differently.
Codes are padded with zeros in the key, so other names have other keys only if
no code contains a zero (`NamedAsset.key_injective`).
-/

namespace SorobanFork

open Lib

/-! ## Names of assets -/

/-- A Classic asset as a request names it. -/
inductive NamedAsset : Type
  | native
  | credit (code : Bytes) (issuer : AccountId)
deriving DecidableEq

namespace NamedAsset

def asset : NamedAsset → Except HandlerError ClassicAsset
  | .native => .ok .native
  | .credit code issuer => (creditAsset code issuer).map .credit

/-- The key that holds an account's balance in the asset. -/
def key (accountId : AccountId) (named : NamedAsset) : Except HandlerError LedgerKey :=
  named.asset.map fun asset => (⟨accountId, asset, 0⟩ : BalanceRequest).key

def NulFree : NamedAsset → Prop
  | .native => True
  | .credit code _ => 0 ∉ code

/-- The asset of the request names this asset. -/
def NamedBy {X : Xdr} (wire : Wire X) : NamedAsset → AssetWire → Prop
  | .native, .native => True
  | .credit code issuer, .credit codeText issuerText =>
    code = utf8 codeText ∧ wire.publicKeyFromString issuerText = .ok issuer.ed25519
  | _, _ => False

end NamedAsset

/-- The parameters ask for this balance of the account in the asset. -/
structure AsksBalance {X : Xdr} (wire : Wire X) (params : wire.Json) (accountId : AccountId)
    (named : NamedAsset) (amount : Int64) (parsed : SetBalanceParams) : Prop where
  params : wire.setBalanceParams params = .ok parsed
  account : wire.publicKeyFromString parsed.account = .ok accountId.ed25519
  asset : named.NamedBy wire (parsed.asset.getD .native)
  amount : parseI64 parsed.amount = .ok amount

/-- The balance that an account or a trustline holds. -/
def LedgerEntry.balance (entry : LedgerEntry) : Option Int64 :=
  match entry.data with
  | .account account => some account.balance
  | .trustline tl => some tl.balance
  | _ => none

/-- The account or trustline that is created under a key. -/
def LedgerKey.fresh (amount : Int64) (sequence : UInt32) : LedgerKey → Option LedgerEntry
  | .account id => some ⟨sequence, .account (.fresh id amount (initialSeq sequence)), .v0⟩
  | .trustline id asset => some ⟨sequence, .trustline (.fresh id asset amount), .v0⟩
  | _ => none

/-! ## Codes and keys -/

section Codes

variable {code code' : Bytes} {issuer issuer' : AccountId} {asset : TrustLineAsset}

theorem takeWhile_padded (nulFree : 0 ∉ code) (n : Nat) :
    (code ++ List.replicate n 0).takeWhile (· ≠ 0) = code := by
  rw [List.takeWhile_append_of_pos]
  · cases n with
    | zero => exact List.append_nil code
    | succ n => simp [List.replicate_succ]
  · intro byte mem
    simp only [ne_eq, decide_eq_true_eq]
    rintro rfl
    exact nulFree mem

/-- A code without zeros can be read off its padded form. -/
theorem assetCode_injective {n : Nat} {short : code.length ≤ n} {short' : code'.length ≤ n}
    (nulFree : 0 ∉ code) (nulFree' : 0 ∉ code')
    (same : assetCode n code short = assetCode n code' short') : code = code' := by
  have padded : code ++ List.replicate (n - code.length) 0 =
      code' ++ List.replicate (n - code'.length) 0 := congrArg Subtype.val same
  rw [← takeWhile_padded nulFree (n - code.length), padded, takeWhile_padded nulFree']

theorem creditAsset_injective (nulFree : 0 ∉ code) (nulFree' : 0 ∉ code')
    (built : creditAsset code issuer = .ok asset)
    (built' : creditAsset code' issuer' = .ok asset) : code = code' ∧ issuer = issuer' := by
  unfold creditAsset at built built'
  split_ifs at built with empty short long
  · split_ifs at built' with empty' short' long'
    · cases built
      obtain ⟨codes, issuers⟩ := TrustLineAsset.creditAlphanum4.inj (Except.ok.inj built')
      exact ⟨(assetCode_injective nulFree' nulFree codes).symm, issuers.symm⟩
    · cases built
      cases built'
  · split_ifs at built' with empty' short' long'
    · cases built
      cases built'
    · cases built
      obtain ⟨codes, issuers⟩ := TrustLineAsset.creditAlphanum12.inj (Except.ok.inj built')
      exact ⟨(assetCode_injective nulFree' nulFree codes).symm, issuers.symm⟩

/-- Different accounts, or assets of different names, have different keys. -/
theorem NamedAsset.key_injective {accountId accountId' : AccountId} {named named' : NamedAsset}
    {key : LedgerKey} (nulFree : named.NulFree) (nulFree' : named'.NulFree)
    (has : named.key accountId = .ok key) (has' : named'.key accountId' = .ok key) :
    accountId = accountId' ∧ named = named' := by
  obtain ⟨asset, names, rfl⟩ := except_map_eq_ok.mp has
  obtain ⟨asset', names', same⟩ := except_map_eq_ok.mp has'
  cases named with
  | native =>
      cases names
      cases named' with
      | native =>
          cases names'
          cases same
          exact ⟨rfl, rfl⟩
      | credit code' issuer' =>
          obtain ⟨trustline, -, rfl⟩ := except_map_eq_ok.mp names'
          cases same
  | credit code issuer =>
      obtain ⟨trustline, built, rfl⟩ := except_map_eq_ok.mp names
      cases named' with
      | native =>
          cases names'
          cases same
      | credit code' issuer' =>
          obtain ⟨trustline', built', rfl⟩ := except_map_eq_ok.mp names'
          cases same
          obtain ⟨rfl, rfl⟩ := creditAsset_injective nulFree nulFree' built built'
          exact ⟨rfl, rfl⟩

end Codes

/-! ## What a request does -/

section

variable {X : Xdr} {world : World X} {wire : Wire X} {upstream : Upstream}
  {server server' : Server X} {request : BalanceRequest}

/-- A request that is decoded at all is decoded to what it asks for. -/
theorem decodeSetBalance_classic {params : wire.Json} {accountId : AccountId}
    {named : NamedAsset} {amount : Int64} {parsed : SetBalanceParams}
    {decodes : BalanceRequest ⊕ TokenBalanceRequest}
    (asks : AsksBalance wire params accountId named amount parsed)
    (decoded : decodeSetBalance wire params = .ok decodes) :
    ∃ asset, named.asset = .ok asset ∧ decodes = .inl ⟨accountId, asset, amount⟩ := by
  obtain ⟨parsing, account, namedBy, number⟩ := asks
  unfold decodeSetBalance at decoded
  rw [parseParams_ok parsing, except_ok_bind, decodePublicKey_ok account, except_ok_bind] at decoded
  have amount_ {n : Int64} (ok : decodeAmount wire parsed.amount = .ok n) : n = amount := by
    rw [decodeAmount, number] at ok
    by_cases negative : amount < 0
    · simp only [if_pos negative] at ok
      cases ok
    · simp only [if_neg negative, Except.ok.injEq] at ok
      exact ok.symm
  cases wireAsset : parsed.asset.getD .native with
  | contract contract =>
      rw [wireAsset] at namedBy
      cases named <;> exact namedBy.elim
  | native =>
      rw [wireAsset] at namedBy decoded
      cases named with
      | credit code issuer => exact namedBy.elim
      | native =>
          obtain ⟨n, ok, decoded⟩ := except_bind_eq_ok.mp decoded
          cases decoded
          rw [amount_ ok]
          exact ⟨.native, rfl, rfl⟩
  | credit codeText issuerText =>
      rw [wireAsset] at namedBy decoded
      cases named with
      | native => exact namedBy.elim
      | credit code issuer =>
          obtain ⟨rfl, issuerKey⟩ := namedBy
          obtain ⟨n, ok, decoded⟩ := except_bind_eq_ok.mp decoded
          obtain ⟨asset, assetOk, decoded⟩ := except_bind_eq_ok.mp decoded
          cases decoded
          rw [decodeClassicAsset, decodePublicKey_ok issuerKey, except_ok_bind] at assetOk
          obtain ⟨trustline, built, assetOk⟩ := except_bind_eq_ok.mp assetOk
          cases assetOk
          rw [amount_ ok]
          exact ⟨.credit trustline, except_map_eq_ok.mpr ⟨trustline, built, rfl⟩, rfl⟩

theorem rebalance_none (wire : Wire X) (request : BalanceRequest) (sequence : UInt32) :
    ∃ entry, rebalance wire request none sequence = .ok entry ∧
      request.key.fresh request.amount sequence = some entry := by
  unfold rebalance BalanceRequest.key
  cases request.asset with
  | native => exact ⟨_, rfl, rfl⟩
  | credit trustline => exact ⟨_, rfl, rfl⟩

/-- The entry that is written has the balance. -/
theorem balance_rebalance {existing : Option LedgerEntry} {sequence : UInt32} {entry : LedgerEntry}
    (built : rebalance wire request existing sequence = .ok entry) :
    entry.balance = some request.amount := by
  cases existing with
  | none =>
      unfold rebalance at built
      cases asset : request.asset with
      | native =>
          simp only [asset, Except.ok.injEq] at built
          rw [← built]
          rfl
      | credit trustline =>
          simp only [asset, Except.ok.injEq] at built
          rw [← built]
          rfl
  | some found =>
      rcases Cheat.rebalance_some built with ⟨account, -, rfl⟩ | ⟨tl, -, rfl⟩
      · rfl
      · rfl

/-- The Classic path reads the entry that the fork shows, and writes it back rebalanced. -/
theorem setClassicBalance_ok (fixed : world.client.Fixed upstream) {response : Response}
    (ran : Prog.run (Server.step world) (setClassicBalance wire request) server =
      (.ok (.ok response), server')) :
    ∃ value entry, server.worker.env.source.view upstream request.key = some value ∧
      rebalance wire request (value.map (·.1)) server.ledgerSequence = .ok entry ∧
      server'.worker.env.source.view upstream =
        Function.update (server.worker.env.source.view upstream) request.key
          (some (some (entry, none))) := by
  rw [setClassicBalance] at ran
  obtain ⟨existing, s, readServed, ran⟩ := reply_of_answered ran
  obtain ⟨value, shown, found, latest, reads⟩ :=
    Server.shown_of_step_getLedgerEntries fixed readServed
  rw [found, latest] at ran
  rcases built : rebalance wire request (value.map (·.1)) server.ledgerSequence with e | entry
  · rw [built, decoded_error_bind] at ran
    cases ran
  · rw [built, decoded_ok_bind] at ran
    obtain ⟨_, s', writeServed, ran⟩ := reply_of_answered ran
    cases ran
    obtain ⟨view, -⟩ :=
      @view_of_step_setLedgerEntry _ _ _ _ upstream ⟨request.key, entry, none⟩ () writeServed
    refine ⟨value, entry, shown, built, ?_⟩
    rw [view, funext reads.view]

/-- An answered request for a Classic balance ran the Classic path. -/
theorem run_setClassicBalance_of_served {params : wire.Json} {accountId : AccountId}
    {named : NamedAsset} {amount : Int64} {parsed : SetBalanceParams} {response : Response}
    (asks : AsksBalance wire params accountId named amount parsed)
    (served : serve world wire "fork_setBalance" params server = (.result response, server')) :
    ∃ asset, named.asset = .ok asset ∧
      Prog.run (Server.step world) (setClassicBalance wire ⟨accountId, asset, amount⟩) server =
        (.ok (.ok response), server') := by
  have ran := run_of_serve_result served
  rw [dispatch_fork_setBalance, handleForkSetBalance] at ran
  rcases decoded : decodeSetBalance wire params with e | decodes
  · rw [decoded, decoded_error_bind] at ran
    cases ran
  obtain ⟨asset, names, rfl⟩ := decodeSetBalance_classic asks decoded
  rw [decoded, decoded_ok_bind] at ran
  exact ⟨asset, names, ran⟩

/-- **Exactly one balance is set.**  After an answered `fork_setBalance`, the entry
under the key of account and asset has the amount as its balance; if there was an
entry its other fields are as before, up to the last-modified ledger, and else it
is a fresh one; every other key, and so every other account or asset, answers as
before. -/
theorem setBalance_sets_one_balance (fixed : world.client.Fixed upstream) {params : wire.Json}
    {accountId : AccountId} {named : NamedAsset} {amount : Int64} {parsed : SetBalanceParams}
    {response : Response} (asks : AsksBalance wire params accountId named amount parsed)
    (served : serve world wire "fork_setBalance" params server = (.result response, server')) :
    ∃ key value entry, named.key accountId = .ok key ∧
      server.worker.env.source.view upstream key = some value ∧
      server'.worker.env.source.view upstream key = some (some (entry, none)) ∧
      entry.balance = some amount ∧
      (∀ found liveUntil, value = some (found, liveUntil) →
        entry.withoutBalance = found.withoutBalance) ∧
      (value = none → key.fresh amount server.ledgerSequence = some entry) ∧
      (∀ other, other ≠ key →
        server'.worker.env.source.view upstream other =
          server.worker.env.source.view upstream other) ∧
      ∀ accountId' named' key', named.NulFree → named'.NulFree → named'.key accountId' = .ok key' →
        (accountId', named') ≠ (accountId, named) →
          server'.worker.env.source.view upstream key' =
            server.worker.env.source.view upstream key' := by
  obtain ⟨asset, names, ran⟩ := run_setClassicBalance_of_served asks served
  obtain ⟨value, entry, shown, built, view⟩ := setClassicBalance_ok fixed ran
  have key : named.key accountId = .ok (⟨accountId, asset, amount⟩ : BalanceRequest).key :=
    except_map_eq_ok.mpr ⟨asset, names, rfl⟩
  have others : ∀ other, other ≠ (⟨accountId, asset, amount⟩ : BalanceRequest).key →
      server'.worker.env.source.view upstream other =
        server.worker.env.source.view upstream other := by
    intro other ne
    rw [view, Function.update_of_ne ne]
  refine ⟨_, value, entry, key, shown, ?_, balance_rebalance built, ?_, ?_, others, ?_⟩
  · rw [view, Function.update_self]
  · rintro found liveUntil rfl
    exact Cheat.withoutBalance_rebalance built
  · rintro rfl
    obtain ⟨entry', built', fresh⟩ :=
      rebalance_none wire ⟨accountId, asset, amount⟩ server.ledgerSequence
    rw [Option.map_none, built'] at built
    cases built
    exact fresh
  · intro accountId' named' key' nulFree nulFree' key'_ differ
    apply others
    rintro rfl
    obtain ⟨rfl, rfl⟩ := NamedAsset.key_injective nulFree nulFree' key key'_
    exact differ rfl

end

namespace Sample

/-- Set the balance of account 1 in an asset of issuer 2 to 77. -/
def usdcParams : Json := .setBalance ⟨"G1", "77", some (.credit "USDC" "G2")⟩

def usdc : NamedAsset := .credit (utf8 "USDC") (account 2)

/-- The fork, on which the account has no trustline, after that. -/
def usdcSet : RpcReply × Server xdr :=
  serve world (wire []) "fork_setBalance" usdcParams (server [])

end Sample

open Sample in
theorem setBalance_sets_one_balance_usdc :
    ∃ key value entry, usdc.key (account 1) = .ok key ∧
      (server []).worker.env.source.view absentUpstream key = some value ∧
      usdcSet.2.worker.env.source.view absentUpstream key = some (some (entry, none)) ∧
      entry.balance = some 77 ∧
      (∀ found liveUntil, value = some (found, liveUntil) →
        entry.withoutBalance = found.withoutBalance) ∧
      (value = none → key.fresh 77 (server []).ledgerSequence = some entry) ∧
      (∀ other, other ≠ key →
        usdcSet.2.worker.env.source.view absentUpstream other =
          (server []).worker.env.source.view absentUpstream other) ∧
      ∀ accountId' named' key', usdc.NulFree → named'.NulFree → named'.key accountId' = .ok key' →
        (accountId', named') ≠ (account 1, usdc) →
          usdcSet.2.worker.env.source.view absentUpstream key' =
            (server []).worker.env.source.view absentUpstream key' :=
  @setBalance_sets_one_balance xdr world (wire []) absentUpstream (server []) usdcSet.2 fixed
    usdcParams (account 1) usdc 77 ⟨"G1", "77", some (.credit "USDC" "G2")⟩
    (.setBalance ⟨true, 100⟩) ⟨rfl, rfl, ⟨rfl, rfl⟩, rfl⟩ rfl

end SorobanFork
