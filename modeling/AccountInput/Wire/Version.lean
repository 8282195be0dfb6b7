import AccountInput.Config.Load
import AccountInput.Wire.Bytes

namespace AccountInput

def Schema.version : Schema → Value
  | .v0 => .int 0
  | .v1 => .int 1

namespace Wire

/-- The schema of a version. -/
def schemaOf (version : Value) : Except Fault Schema :=
  if Settings.isWireVersion version then
    .ok (if version.equal (.int 0) then .v0 else .v1)
  else do
    let shown ← version.statedRepr
    throw (.stated .badValue ("unsupported wire version " ++ shown))

/-- The schema of a version, or where it is null of the one in the settings. -/
def resolve (w : Surroundings) (version : Value) : Except Fault Schema :=
  match version with
  | .null => do
    let s ← Config.load w .null []
    schemaOf s.wireVersion
  | v => schemaOf v

def toObject (w : Surroundings) (v version : Value) : Except Fault Value := do
  let s ← resolve w version
  let t ← v.asTiming
  return t.toObject s

def toBytes (w : Surroundings) (v version : Value) : Except Fault (List UInt8) := do
  let s ← resolve w version
  let t ← v.asTiming
  return t.toBytes w.codec s

def ofObject (w : Surroundings) (obj version : Value) : Except Fault Timing := do
  let s ← resolve w version
  Timing.ofObject s obj

/-- The timing of bytes. The bytes are read before the version is looked at. -/
def ofBytes (w : Surroundings) (bs : List UInt8) (version : Value) : Except Fault Timing := do
  let obj ← objectOfBytes w.codec bs
  let s ← resolve w version
  Timing.ofObject s obj

end Wire
end AccountInput
