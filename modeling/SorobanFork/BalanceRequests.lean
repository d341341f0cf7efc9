import SorobanFork.DecimalText
import SorobanFork.Server.Decoding

/-!
# Requests for a balance

`SpellsBalance` says which texts make a `fork_setBalance` request, and which one.  The
decoder accepts just these; another request ends without a command
(`balance_requests_exact`).
-/

namespace SorobanFork

open Lib

section

variable {X : Xdr} {world : World X} {wire : Wire X}

/-- The Classic asset of this name: a code of 1 to 4 bytes, or of 5 to 12, is padded
with zeros. -/
inductive SpellsAsset (wire : Wire X) : AssetWire → ClassicAsset → Prop
  | native : SpellsAsset wire .native .native
  | short {code issuer : String} {id : Uint256} {zeros : Nat} (padded : List.Vector UInt8 4) :
    wire.publicKeyFromString issuer = .ok id → utf8 code ≠ [] →
    padded.val = utf8 code ++ List.replicate zeros 0 →
    SpellsAsset wire (.credit code issuer) (.credit (.creditAlphanum4 padded ⟨id⟩))
  | long {code issuer : String} {id : Uint256} {zeros : Nat} (padded : List.Vector UInt8 12) :
    wire.publicKeyFromString issuer = .ok id → 4 < (utf8 code).length →
    padded.val = utf8 code ++ List.replicate zeros 0 →
    SpellsAsset wire (.credit code issuer) (.credit (.creditAlphanum12 padded ⟨id⟩))

/-- The request that parameters spell: the amount is a decimal number that is not
negative and in the range of the type for the asset. -/
inductive SpellsBalance (wire : Wire X) (parsed : SetBalanceParams) :
    BalanceRequest ⊕ TokenBalanceRequest → Prop
  | classic {account : Uint256} {asset : ClassicAsset} {amount : Int64} :
    wire.publicKeyFromString parsed.account = .ok account →
    SpellsAsset wire (parsed.asset.getD .native) asset →
    IsDecimal True parsed.amount amount.toInt → 0 ≤ amount.toInt →
    SpellsBalance wire parsed (.inl ⟨⟨account⟩, asset, amount⟩)
  | token {account : Uint256} {text : String} {contract : Hash} {target : I128} :
    wire.publicKeyFromString parsed.account = .ok account →
    parsed.asset = some (.contract text) → wire.contractFromString text = .ok contract →
    IsDecimal True parsed.amount target.toInt → 0 ≤ target.toInt →
    SpellsBalance wire parsed (.inr ⟨⟨account⟩, target, contract⟩)

/-! ## Fields -/

theorem decodeAmount_eq_ok_iff {text : String} {amount : Int64} :
    decodeAmount wire text = .ok amount ↔
      IsDecimal True text amount.toInt ∧ 0 ≤ amount.toInt := by
  rw [← parseI64_eq_ok_iff, decodeAmount]
  rcases parseI64 text with e | n
  · exact ⟨nofun, fun both => nomatch both.1⟩
  dsimp only
  by_cases negative : n < 0
  · have below : n.toInt < (0 : Int64).toInt := Int64.lt_iff_toInt_lt.mp negative
    rw [if_pos negative]
    refine ⟨nofun, ?_⟩
    rintro ⟨same, least⟩
    cases same
    exact absurd least (Int.not_le.mpr below)
  · have least : (0 : Int64).toInt ≤ n.toInt :=
      Int.not_lt.mp (mt Int64.lt_iff_toInt_lt.mpr negative)
    rw [if_neg negative, Except.ok.injEq, Except.ok.injEq]
    refine ⟨fun same => ⟨same, ?_⟩, And.left⟩
    rw [← same]
    exact least

theorem decodeTokenAmount_eq_ok_iff {text : String} {target : I128} :
    decodeTokenAmount wire text = .ok target ↔
      IsDecimal True text target.toInt ∧ 0 ≤ target.toInt := by
  rw [← parseI128_eq_ok_iff, decodeTokenAmount]
  rcases parseI128 text with e | n
  · exact ⟨nofun, fun both => nomatch both.1⟩
  dsimp only
  by_cases negative : n.toInt < 0
  · rw [if_pos negative]
    refine ⟨nofun, ?_⟩
    rintro ⟨same, least⟩
    cases same
    exact absurd least (Int.not_le.mpr negative)
  · rw [if_neg negative, Except.ok.injEq, Except.ok.injEq]
    refine ⟨fun same => ⟨same, ?_⟩, And.left⟩
    rw [← same]
    exact Int.not_lt.mp negative

/-- A code that fits is padded with as many zeros as are left. -/
theorem exists_assetCode_iff {n : Nat} {code : Bytes} {padded : List.Vector UInt8 n} :
    (∃ short : code.length ≤ n, assetCode n code short = padded) ↔
      ∃ zeros, padded.val = code ++ List.replicate zeros 0 := by
  constructor
  · rintro ⟨short, rfl⟩
    exact ⟨n - code.length, rfl⟩
  · rintro ⟨zeros, same⟩
    have length : n = code.length + zeros := by
      rw [← padded.property, same, List.length_append, List.length_replicate]
    have left : zeros = n - code.length := by omega
    subst left
    exact ⟨by omega, Subtype.ext same.symm⟩

theorem creditAsset_eq_ok_iff {code : Bytes} {issuer : AccountId} {asset : TrustLineAsset} :
    creditAsset code issuer = .ok asset ↔
      (∃ padded zeros, code ≠ [] ∧ padded.val = code ++ List.replicate zeros 0 ∧
        asset = .creditAlphanum4 padded issuer) ∨
      ∃ padded zeros, 4 < code.length ∧ padded.val = code ++ List.replicate zeros 0 ∧
        asset = .creditAlphanum12 padded issuer := by
  have fits {n : Nat} {padded : List.Vector UInt8 n} {zeros : Nat}
      (same : padded.val = code ++ List.replicate zeros 0) :
      ∃ short : code.length ≤ n, assetCode n code short = padded :=
    exists_assetCode_iff.mpr ⟨zeros, same⟩
  constructor
  · intro built
    unfold creditAsset at built
    split_ifs at built with empty short long
    · cases built
      obtain ⟨zeros, same⟩ := exists_assetCode_iff.mp ⟨short, rfl⟩
      exact .inl ⟨_, zeros, mt List.length_eq_zero_iff.mpr empty, same, rfl⟩
    · cases built
      obtain ⟨zeros, same⟩ := exists_assetCode_iff.mp ⟨long, rfl⟩
      exact .inr ⟨_, zeros, Nat.lt_of_not_le short, same, rfl⟩
  · rintro (⟨padded, zeros, some, same, rfl⟩ | ⟨padded, zeros, more, same, rfl⟩)
    · obtain ⟨short, rfl⟩ := fits same
      rw [creditAsset, if_neg (mt List.length_eq_zero_iff.mp some), dif_pos short]
    · obtain ⟨long, rfl⟩ := fits same
      rw [creditAsset, if_neg (by omega), dif_neg (Nat.not_le_of_lt more), dif_pos long]

theorem decodeClassicAsset_eq_ok_iff {named : AssetWire} {asset : ClassicAsset}
    (classic : ∀ text, named ≠ .contract text) :
    decodeClassicAsset wire named = .ok asset ↔ SpellsAsset wire named asset := by
  cases named with
  | native =>
      constructor
      · intro decoded
        cases decoded
        exact .native
      · rintro ⟨⟩
        rfl
  | contract text => exact absurd rfl (classic text)
  | credit code issuer =>
      constructor
      · intro decoded
        obtain ⟨id, parsed, decoded⟩ := except_bind_eq_ok.mp decoded
        obtain ⟨trustline, built, decoded⟩ := except_bind_eq_ok.mp decoded
        cases decoded
        have parsed := except_mapError_eq_ok.mp parsed
        rcases creditAsset_eq_ok_iff.mp built with
          ⟨padded, zeros, some, same, rfl⟩ | ⟨padded, zeros, long, same, rfl⟩
        · exact .short padded parsed some same
        · exact .long padded parsed long same
      · intro spelled
        have decodes {id : Uint256} {trustline : TrustLineAsset}
            (parsed : wire.publicKeyFromString issuer = .ok id)
            (built : creditAsset (utf8 code) ⟨id⟩ = .ok trustline) :
            decodeClassicAsset wire (.credit code issuer) = .ok (.credit trustline) :=
          except_bind_eq_ok.mpr ⟨id, except_mapError_eq_ok.mpr parsed,
            except_bind_eq_ok.mpr ⟨trustline, built, rfl⟩⟩
        cases spelled with
        | short padded parsed some same =>
            exact decodes parsed (creditAsset_eq_ok_iff.mpr (.inl ⟨padded, _, some, same, rfl⟩))
        | long padded parsed long same =>
            exact decodes parsed (creditAsset_eq_ok_iff.mpr (.inr ⟨padded, _, long, same, rfl⟩))

/-! ## Requests -/

section

variable {parsed : SetBalanceParams} {account : Uint256}
  {request : BalanceRequest ⊕ TokenBalanceRequest}

theorem classic_eq_ok_iff {named : AssetWire} (classic : ∀ text, named ≠ .contract text) :
    ((do
        let amount ← decodeAmount wire parsed.amount
        let asset ← decodeClassicAsset wire named
        return .inl ⟨⟨account⟩, asset, amount⟩ :
          Except HandlerError (BalanceRequest ⊕ TokenBalanceRequest)) = .ok request) ↔
      ∃ amount asset, (IsDecimal True parsed.amount amount.toInt ∧ 0 ≤ amount.toInt) ∧
        SpellsAsset wire named asset ∧ request = .inl ⟨⟨account⟩, asset, amount⟩ := by
  rw [except_bind_eq_ok]
  refine exists_congr fun amount => ?_
  rw [decodeAmount_eq_ok_iff, except_bind_eq_ok, ← exists_and_left]
  refine exists_congr fun asset => and_congr_right fun _ => ?_
  rw [decodeClassicAsset_eq_ok_iff classic]
  exact and_congr_right fun _ => ⟨fun same => (Except.ok.inj same).symm, fun same => same ▸ rfl⟩

theorem token_eq_ok_iff {text : String} :
    ((do
        let target ← decodeTokenAmount wire parsed.amount
        let contract ← decodeContract wire "asset.contract" text
        return .inr ⟨⟨account⟩, target, contract⟩ :
          Except HandlerError (BalanceRequest ⊕ TokenBalanceRequest)) = .ok request) ↔
      ∃ target contract, (IsDecimal True parsed.amount target.toInt ∧ 0 ≤ target.toInt) ∧
        wire.contractFromString text = .ok contract ∧
        request = .inr ⟨⟨account⟩, target, contract⟩ := by
  rw [except_bind_eq_ok]
  refine exists_congr fun target => ?_
  rw [decodeTokenAmount_eq_ok_iff, except_bind_eq_ok, ← exists_and_left]
  refine exists_congr fun contract => and_congr_right fun _ => ?_
  rw [decodeContract, except_mapError_eq_ok]
  exact and_congr_right fun _ => ⟨fun same => (Except.ok.inj same).symm, fun same => same ▸ rfl⟩

theorem spellsBalance_classic_iff (classic : ∀ text, parsed.asset.getD .native ≠ .contract text) :
    SpellsBalance wire parsed request ↔
      ∃ account, wire.publicKeyFromString parsed.account = .ok account ∧
        ∃ amount asset, (IsDecimal True parsed.amount amount.toInt ∧ 0 ≤ amount.toInt) ∧
          SpellsAsset wire (parsed.asset.getD .native) asset ∧
          request = .inl ⟨⟨account⟩, asset, amount⟩ := by
  constructor
  · rintro (⟨key, spelled, decimal, least⟩ | ⟨-, given, -, -, -⟩)
    · exact ⟨_, key, _, _, ⟨decimal, least⟩, spelled, rfl⟩
    · rw [given] at classic
      exact absurd rfl (classic _)
  · rintro ⟨account, key, amount, asset, ⟨decimal, least⟩, spelled, rfl⟩
    exact .classic key spelled decimal least

theorem spellsBalance_token_iff {text : String} (given : parsed.asset = some (.contract text)) :
    SpellsBalance wire parsed request ↔
      ∃ account, wire.publicKeyFromString parsed.account = .ok account ∧
        ∃ target contract, (IsDecimal True parsed.amount target.toInt ∧ 0 ≤ target.toInt) ∧
          wire.contractFromString text = .ok contract ∧
          request = .inr ⟨⟨account⟩, target, contract⟩ := by
  constructor
  · rintro (⟨-, spelled, -, -⟩ | ⟨key, given', contract, decimal, least⟩)
    · rw [given] at spelled
      nomatch spelled
    · cases given.symm.trans given'
      exact ⟨_, key, _, _, ⟨decimal, least⟩, contract, rfl⟩
  · rintro ⟨account, key, target, contract, ⟨decimal, least⟩, parsed, rfl⟩
    exact .token key given parsed decimal least

end

theorem decodeSetBalance_eq_ok_iff {params : wire.Json}
    {request : BalanceRequest ⊕ TokenBalanceRequest} :
    decodeSetBalance wire params = .ok request ↔
      ∃ parsed, wire.setBalanceParams params = .ok parsed ∧ SpellsBalance wire parsed request := by
  rw [decodeSetBalance, except_bind_eq_ok]
  refine exists_congr fun parsed => ?_
  rw [parseParams, except_mapError_eq_ok]
  refine and_congr_right fun _ => ?_
  rw [except_bind_eq_ok]
  simp only [decodePublicKey, except_mapError_eq_ok]
  by_cases token : ∃ text, parsed.asset = some (.contract text)
  · obtain ⟨text, given⟩ := token
    simp only [given, Option.getD_some, token_eq_ok_iff, spellsBalance_token_iff given]
  · have classic (text : String) : parsed.asset.getD .native ≠ .contract text := by
      intro contract
      rcases given : parsed.asset with _ | asset
      · rw [given] at contract
        cases contract
      · rw [given, Option.getD_some] at contract
        exact token ⟨text, by rw [given, contract]⟩
    rw [spellsBalance_classic_iff classic]
    refine exists_congr fun account => and_congr_right fun _ => ?_
    rw [← classic_eq_ok_iff classic]
    cases asset : parsed.asset.getD .native with
    | contract text => exact absurd asset (classic text)
    | native => rfl
    | credit code issuer => rfl

/-- **Balance requests.**  `fork_setBalance` takes exactly the parameters that spell a
request, as that request; any other it turns down without a command. -/
theorem balance_requests_exact (world : World X) (wire : Wire X) (params : wire.Json) :
    (∀ request, decodeSetBalance wire params = .ok request ↔
      ∃ parsed, wire.setBalanceParams params = .ok parsed ∧ SpellsBalance wire parsed request) ∧
    ((¬∃ request parsed, wire.setBalanceParams params = .ok parsed ∧
        SpellsBalance wire parsed request) →
      ∃ detail, dispatch world wire "fork_setBalance" params =
        .ret (.error (invalidParams detail))) := by
  refine ⟨fun request => decodeSetBalance_eq_ok_iff, fun unspelled => ?_⟩
  rcases decoded : decodeSetBalance wire params with e | request
  · obtain ⟨detail, rfl⟩ := InvalidOnly.decodeSetBalance wire params e decoded
    refine ⟨detail, ?_⟩
    rw [dispatch_fork_setBalance, handleForkSetBalance, decoded]
    rfl
  · exact absurd ⟨request, decodeSetBalance_eq_ok_iff.mp decoded⟩ unspelled

end

end SorobanFork
