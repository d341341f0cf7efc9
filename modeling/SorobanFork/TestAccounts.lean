import SorobanFork.Xdr.Ledger

/-!
# Pre-funded test accounts (`test_accounts.rs`)

Each test account is minted as an `AccountEntry` and, for each configured
asset, an authorised `TrustLineEntry`.  Key derivation (SHA-256, ed25519) is
outside the model: an account comes with its public key.
-/

namespace SorobanFork

/-- `secret_seed` is not part of any entry and is left out. -/
structure TestAccount : Type where
  publicKey : Uint256
  balanceStroops : Int64
deriving DecidableEq

/-- `DEFAULT_BALANCE_STROOPS`: 100K XLM. -/
def defaultBalanceStroops : Int64 := 100000 * 10000000

/-- `(seq as i64) << 32`: the first sequence number of an account created at
ledger `seq`; the shift drops the bits past 64. -/
def initialSeq (seq : UInt32) : Int64 := seq.toUInt64.toInt64 <<< 32

/-- `Thresholds([1, 0, 0, 0])`: master weight 1, the others 0. -/
def defaultThresholds : List.Vector UInt8 4 := ⟨[1, 0, 0, 0], rfl⟩

/-- A freshly created account. -/
def AccountEntry.fresh (accountId : AccountId) (balance seqNum : Int64) : AccountEntry where
  accountId := accountId
  balance := balance
  seqNum := seqNum
  numSubEntries := 0
  inflationDest := none
  flags := 0
  homeDomain := []
  thresholds := defaultThresholds
  signers := []
  ext := .v0

/-- A freshly created trustline: authorised, with the largest limit. -/
def TrustLineEntry.fresh (accountId : AccountId) (asset : TrustLineAsset) (balance : Int64) :
    TrustLineEntry where
  accountId := accountId
  asset := asset
  balance := balance
  limit := Int64.maxValue
  flags := 1
  ext := .v0

namespace TestAccount

def accountId (a : TestAccount) : AccountId := ⟨a.publicKey⟩

def ledgerEntry (a : TestAccount) (forkLedgerSeq : UInt32) : LedgerKey × LedgerEntry :=
  (.account a.accountId,
    { lastModifiedLedgerSeq := forkLedgerSeq
      data := .account (.fresh a.accountId a.balanceStroops (initialSeq forkLedgerSeq))
      ext := .v0 })

def trustlineEntry (a : TestAccount) (asset : TrustLineAsset) (forkLedgerSeq : UInt32) :
    LedgerKey × LedgerEntry :=
  (.trustline a.accountId asset,
    { lastModifiedLedgerSeq := forkLedgerSeq
      data := .trustline (.fresh a.accountId asset 0)
      ext := .v0 })

end TestAccount

/-- The first `n` test accounts, from the derivation of the `i`-th public key. -/
def generate (publicKey : Nat → Uint256) (n : Nat) : List TestAccount :=
  (List.range n).map fun i => ⟨publicKey i, defaultBalanceStroops⟩

end SorobanFork
