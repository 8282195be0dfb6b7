import AccountInput.Document.Basic
import AccountInput.Value.Number

namespace AccountInput
namespace Document

/-- The digits of a text that consists of digits alone, of which there is at least one. -/
def digits? (cs : List Char) : Option (List Nat) :=
  if cs.isEmpty then none else cs.mapM Text.asciiDigit?

/-- The digits of a number, after its sign. -/
def unsigned? : List Char → Option (List Nat)
  | '+' :: cs => digits? cs
  | cs => digits? cs

abbrev Number := { n : Nat // n < UInt64.size }

/-- A field of a document: its key, and the text of the key in messages. -/
structure Field where
  key : Value
  shown : String

def Field.ofName (name : String) : Field := ⟨.text name, Quoted.text name⟩

def Field.problem (f : Field) (before after : String) (data : List (String × Value)) : Fault :=
  Problem.graphqlParse (before ++ "field " ++ f.shown ++ after) f.key data

/-- The number that the text of a field spells. Too many digits are refused before they are
read. -/
def numberOfDigits (f : Field) (raw : Value) (ds : List Nat) : Except Fault Number :=
  if ds.length ≤ Decimal.digitLimit then
    if h : Decimal.ofDigits ds < UInt64.size then .ok ⟨Decimal.ofDigits ds, h⟩
    else .error (f.problem "" " overflows u64" [("value", raw)])
  else .error .tooManyDigits

/-- The number of a field, out of what stands there. -/
def numberOf (f : Field) (found : Option Value) : Except Fault Number :=
  match found with
  | none => .error (f.problem "missing " "" [])
  | some raw =>
    match raw.text? with
    | none => .error (f.problem "" " must be a decimal string" [("got", .text raw.typeName)])
    | some s =>
      match unsigned? s.toList with
      | none => .error (f.problem "" " is not an unsigned integer" [("value", raw)])
      | some ds => numberOfDigits f raw ds

def number (ms : List (Value × Value)) (key : String) : Except Fault Number :=
  numberOf (.ofName key) (Value.get? ms key)

def occurs (t : List Char) : List Char → Bool
  | [] => t.isEmpty
  | c :: cs => t.isPrefixOf (c :: cs) || occurs t cs

/-- What a loose value has under a loose key. A sequence has a value under the number of its place,
and only looks there for a key that is among its items. -/
def lookUp (doc key : Value) : Except Fault (Option Value) :=
  match doc.entries?, doc.items?, doc.text?, key.text? with
  | some es, _, _, _ =>
    if key.isHashable then .ok (Value.lookup key es) else .error .wrongType
  | _, some xs, _, _ =>
    if xs.any (Value.equal key) then
      match key.int? with
      | some (.ofNat n) => if h : n < xs.length then .ok (some xs[n]) else .error .wrongType
      | _ => .error .wrongType
    else .ok none
  | _, _, some s, some t =>
    if occurs t.toList s.toList then .error .wrongType else .ok none
  | _, _, _, _ => .error .wrongType

/-- The number that a loose value has under a loose key. -/
def numberUnder (doc key : Value) : Except Fault Number := do
  let found ← lookUp doc key
  match key.repr with
  | .ok shown => numberOf ⟨key, shown⟩ found
  | .error f => (numberOf ⟨key, ""⟩ found).mapError fun _ => f

def keyAndName (v : Value) : Except Fault (Value × Value) := do
  match ← v.iterated with
  | [key, name] => return (key, name)
  | _ => throw .badValue

/-- The numbers under several keys, each under its new name. The first fault in the order of the
keys counts; of two equal names the last value. -/
def numbers (doc keys : Value) : Except Fault (List (Value × Value)) := do
  let ms ← members doc
  let pairs ← keys.iterated
  pairs.foldlM (fun found pair => do
    let (key, name) ← keyAndName pair
    let n ← numberUnder (.dict ms) key
    if name.isHashable then return Value.insert found name (.int n.1) else throw .wrongType) []

end Document
end AccountInput
