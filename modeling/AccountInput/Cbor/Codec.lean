import AccountInput.Cbor.Writer
import AccountInput.Cbor.Reader

namespace AccountInput
namespace Cbor

/-- A codec of items: how it writes one, and what it reads at the beginning of bytes, which it may
refuse. -/
structure Codec where
  write : Item → List UInt8
  read? : List UInt8 → Option Value

namespace Codec

/-- The bytes of an item are its canonical ones: every number in the fewest bytes, and keys by the
length of their bytes, then by these. -/
def WritesCanonical (c : Codec) : Prop := ∀ i, c.write i = Cbor.write i

/-- The item that bytes begin with is read, and what follows it is ignored. -/
def ReadsFirst (c : Codec) : Prop :=
  ∀ (i : Item) (rest : List UInt8), i.Fits depthLimit →
    c.read? (Cbor.write i ++ rest) = some i.canonical.toValue

/-- Bytes that end inside an item are refused. -/
def RefusesCut (c : Codec) : Prop :=
  ∀ (i : Item) (p : List UInt8), i.Fits depthLimit → p <+: Cbor.write i → p ≠ Cbor.write i →
    c.read? p = none

/-- The codec that the program runs with. -/
def standard : Codec where
  write := Cbor.write
  read? := Cbor.read?

end Codec
end Cbor
end AccountInput
