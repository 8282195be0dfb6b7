import AccountInput.Cbor.Codec
import AccountInput.Wire.Object

namespace AccountInput
namespace Timing

def toBytes (c : Cbor.Codec) (t : Timing) (s : Schema) : List UInt8 := c.write (t.toItem s)

end Timing

namespace Wire

def invalidBytes (bs : List UInt8) : Fault :=
  Problem.wireFormatFrom "invalid CBOR" [("size", .int bs.length)]

def objectOfBytes (c : Cbor.Codec) (bs : List UInt8) : Except Fault Value :=
  match c.read? bs with
  | some v => .ok v
  | none => .error (invalidBytes bs)

end Wire

def Timing.ofBytes (c : Cbor.Codec) (s : Schema) (bs : List UInt8) : Except Fault Timing := do
  let v ← Wire.objectOfBytes c bs
  Timing.ofObject s v

end AccountInput
