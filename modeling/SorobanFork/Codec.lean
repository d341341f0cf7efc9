import SorobanFork.Xdr.Transaction

/-!
# The XDR codec

Serialisation is the work of the `stellar-xdr` crate.  The development takes it
as a parameter: a type of buffers (`Vec<u8>`) and a lossless `Codec` into it
for each type the fork serialises.

A buffer that the host or the fork itself produced by serialising an entry can
always be parsed again.  `Xdr.Encoded` is the type of such buffers; the parsing
functions of the source panic on any other, which is out of reach for a buffer
that carries its own well-formedness.
-/

namespace SorobanFork

/-- A lossless serialisation of `α` into buffers `B` (`WriteXdr`, `ReadXdr`). -/
structure Codec (B : Type) (α : Type) : Type where
  toXdr : α → B
  fromXdr : B → Option α
  /-- The text of the error on a buffer that does not parse. -/
  errorText : B → String
  fromXdr_toXdr : ∀ a, fromXdr (toXdr a) = some a

/-- The buffers and the codecs of the types the fork serialises. -/
structure Xdr : Type 1 where
  /-- `Vec<u8>`. -/
  Buf : Type
  len : Buf → Nat
  /-- The bytes of a buffer, as an XDR byte string (`BytesM`). -/
  bytes : Buf → Bytes
  ledgerKey : Codec Buf LedgerKey
  ledgerEntry : Codec Buf LedgerEntry
  ledgerEntryData : Codec Buf LedgerEntryData
  scVal : Codec Buf ScVal
  envelope : Codec Buf TransactionEnvelope
  signaturePayload : Codec Buf TransactionSignaturePayload
  diagnosticEvent : Codec Buf DiagnosticEvent

/-- A buffer that holds the serialisation of some `α`. -/
def Codec.Encoded {B α : Type} (c : Codec B α) : Type :=
  { b : B // (c.fromXdr b).isSome }

namespace Codec

variable {B α : Type} {c : Codec B α}

/-- Parse a buffer known to hold an `α`. -/
def decode (b : c.Encoded) : α := (c.fromXdr b.1).get b.2

/-- Serialise an `α`. -/
def encode (c : Codec B α) (a : α) : c.Encoded :=
  ⟨c.toXdr a, by rw [c.fromXdr_toXdr]; rfl⟩

@[simp] theorem decode_encode (a : α) : decode (c.encode a) = a := by
  simp only [decode, encode, c.fromXdr_toXdr, Option.get_some]

end Codec

end SorobanFork
