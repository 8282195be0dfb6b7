import AccountInput.Value.Number

namespace AccountInput
namespace Value

def isBytes (v : Value) : Bool := v.bytes?.isSome

/-- The fault of bytes of another length than is wanted. -/
def otherLength {α : Type} (length : Nat) (wanted name : Value) : Except Fault α := do
  let name ← name.statedStr
  let wanted ← wanted.statedStr
  throw (.stated .badValue (name ++ " must be length " ++ wanted ++ ", got " ++ toString length))

/-- The content of a value of one of the byte forms, which must have a given length. -/
def bytesOfLength (v length name : Value) : Except Fault (List UInt8) :=
  match v.bytes? with
  | none => do
    let name ← name.statedStr
    throw (.stated .wrongType (name ++ " must be bytes-like, got " ++ v.typeName))
  | some b => if equal (.int b.length) length then .ok b else otherLength b.length length name

/-- The content of a value, with zeros up to a width. -/
def zeroPadded (v width : Value) : Except Fault (List UInt8) := do
  let length ← v.bytesLength
  match width.numeric? with
  | none => throw .wrongType
  | some n =>
    if (Numeric.whole length).order n == some .gt then
      let wanted ← width.statedStr
      throw (.stated .badValue ("cannot pad " ++ toString length ++ " bytes into " ++ wanted))
    else
      match width.int? with
      | none => throw .wrongType
      | some n =>
        let rest ← repeatedZeros (n - length).toNat
        let b ← v.toBytes
        return b ++ rest

/-- The hexadecimal text of a value of one of the byte forms, after a mark where that is asked
for. -/
def toHex (v marked : Value) : Except Fault String :=
  match v.bytes? with
  | none => .error (.stated .wrongType "to_hex expects bytes-like")
  | some b => .ok (if marked.isTruthy then "0x" ++ Hex.text b else Hex.text b)

/-- The bytes that a hexadecimal text spells: in either case, with or without a mark, with blanks
around it, and with the first zero left out or not. -/
def fromHex (v : Value) : Except Fault (List UInt8) :=
  match v.text? with
  | none => .error (.stated .wrongType "from_hex expects str")
  | some s =>
    match Hex.decode (Hex.evened (Hex.dropMark (Text.trim s.toList))) with
    | .ok b => .ok b
    | .error i =>
      .error (.stated .badValue
        ("invalid hex string: non-hexadecimal number found in fromhex() arg at position " ++
          toString i))

/-- A text without a leading mark. -/
def withoutMark (v : Value) : Except Fault Value :=
  match v with
  | .text s => .ok (.text (String.ofList (Hex.dropMark s.toList)))
  | .code _ => .ok v
  | .bytes .fixed _ | .bytes .growable _ => .error .wrongType
  | _ => .error .noAttribute

end Value
end AccountInput
