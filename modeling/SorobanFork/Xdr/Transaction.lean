import SorobanFork.Xdr.Ledger

/-!
# Transactions and events

The XDR types of a transaction envelope, of the host function it invokes, and
of the events the host emits.  The parts no modelled function looks into
(memo, preconditions, signatures, authorization entries) are their XDR bytes:
a transaction hash still depends on all of a transaction.
-/

namespace SorobanFork

structure InvokeContractArgs : Type where
  contractAddress : ScAddress
  functionName : Bytes
  args : List ScVal
deriving DecidableEq

inductive HostFunction : Type
  | invokeContract (args : InvokeContractArgs)
  | createContract (xdr : Bytes)
  | uploadContractWasm (wasm : Bytes)
  | createContractV2 (xdr : Bytes)
deriving DecidableEq

structure SorobanAuthorizationEntry : Type where
  xdr : Bytes
deriving DecidableEq

structure InvokeHostFunctionOp : Type where
  hostFunction : HostFunction
  auth : List SorobanAuthorizationEntry
deriving DecidableEq

/-- Every classic operation is its XDR body. -/
inductive OperationBody : Type
  | invokeHostFunction (op : InvokeHostFunctionOp)
  | other (xdr : Bytes)
deriving DecidableEq

structure Operation : Type where
  sourceAccount : Option MuxedAccount
  body : OperationBody
deriving DecidableEq

structure Transaction : Type where
  sourceAccount : MuxedAccount
  fee : UInt32
  seqNum : Int64
  cond : Bytes
  memo : Bytes
  operations : List Operation
  ext : EntryExt
deriving DecidableEq

structure TransactionV1Envelope : Type where
  tx : Transaction
  signatures : List Bytes
deriving DecidableEq

/-- A fee bump wraps a V1 envelope (`FeeBumpTransactionInnerTx::Tx`). -/
structure FeeBumpTransaction : Type where
  feeSource : MuxedAccount
  fee : Int64
  innerTx : TransactionV1Envelope
  ext : EntryExt
deriving DecidableEq

structure FeeBumpTransactionEnvelope : Type where
  tx : FeeBumpTransaction
  signatures : List Bytes
deriving DecidableEq

inductive TransactionEnvelope : Type
  | txV0 (xdr : Bytes)
  | tx (envelope : TransactionV1Envelope)
  | txFeeBump (envelope : FeeBumpTransactionEnvelope)
deriving DecidableEq

inductive TaggedTransaction : Type
  | tx (tx : Transaction)
  | txFeeBump (tx : FeeBumpTransaction)
deriving DecidableEq

structure TransactionSignaturePayload : Type where
  networkId : Hash
  taggedTransaction : TaggedTransaction
deriving DecidableEq

structure LedgerFootprint : Type where
  readOnly : List LedgerKey
  readWrite : List LedgerKey
deriving DecidableEq

structure SorobanResources : Type where
  footprint : LedgerFootprint
  instructions : UInt32
  diskReadBytes : UInt32
  writeBytes : UInt32
deriving DecidableEq

inductive ContractEventType : Type
  | system
  | contract
  | diagnostic
deriving DecidableEq

/-- A contract event with its only body version, `ContractEventBody::V0`. -/
structure ContractEvent : Type where
  contractId : Option Hash
  type : ContractEventType
  topics : List ScVal
  data : ScVal
deriving DecidableEq

structure DiagnosticEvent : Type where
  inSuccessfulContractCall : Bool
  event : ContractEvent
deriving DecidableEq

end SorobanFork
