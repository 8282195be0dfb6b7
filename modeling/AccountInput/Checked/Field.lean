import AccountInput.Value.Number

namespace AccountInput
namespace Fp

/-- The element with a given representative, which must be an integer below the modulus. -/
def ofValue (v : Value) : Except Fault Fp :=
  match v.strictInt? with
  | none => .error (.stated .wrongType "Fp.n must be an int")
  | some n =>
    match if n < 0 then none else ofNat? n.toNat with
    | some x => .ok x
    | none => .error (.stated .badValue "Fp.n must be a canonical representative in [0, P)")

def fromValue (v : Value) : Except Fault Fp := do
  let n ← v.toInt
  return ofInt n

def readValue (v : Value) : Except Fault Fp := do
  let n ← v.length
  if n ≠ elementBytes then
    throw (.stated .badValue ("Fp.read: expected 32 bytes, got " ++ toString n))
  let b ← v.toBytes
  match read b with
  | .ok x => return x
  | .error _ => throw (.stated .badValue "Fp.read: value is not a canonical field element")

def isCanonicalValue (v : Value) : Except Fault Bool := do
  let n ← v.length
  if n ≠ elementBytes then return false
  let b ← v.toBytes
  return isCanonical b

/-- An operation with an element on one side and a value that converts to an integer on the
other. -/
def combine (op : Fp → Fp → Fp) (a b : Value) : Except Fault Fp :=
  match a, b with
  | .fp x, v => (fromValue v).map (op x)
  | v, .fp y => (fromValue v).map (op y)
  | _, _ => .error .wrongType

theorem fromValue_fp (x : Fp) : fromValue (.fp x) = .ok x := congrArg Except.ok (ofInt_val x)

theorem combine_fp (op : Fp → Fp → Fp) (x y : Fp) : combine op (.fp x) (.fp y) = .ok (op x y) :=
  congrArg (Except.map (op x)) (fromValue_fp y)

/-- The power of an element. A modulus is not taken. -/
def power (x : Fp) (e m : Value) : Except Fault Fp :=
  match m with
  | .null =>
    match e.int? with
    | none => .error .wrongType
    | some e =>
      match x.pow? e with
      | some y => .ok y
      | none => .error .badValue
  | _ => .error (.stated .badValue "Fp.__pow__ does not support 3-arg pow")

/-- The marked hexadecimal text of the representative, in 64 digits. -/
def hexText (x : Fp) : String := "0x" ++ Hex.text x.toBytes.reverse

end Fp
end AccountInput
