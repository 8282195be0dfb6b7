import AccountInput.Fault
import AccountInput.Text.Numeral

namespace AccountInput
namespace Value

def textToInt (cs : List Char) : Except Fault Int :=
  match Numeral.decimal? cs with
  | some n => .ok n
  | none => .error .badValue

/-- The integer that a value converts to: a number toward zero, a text by its decimal digits, a
scalar of an account by its content. -/
def toInt : Value → Except Fault Int
  | .int n => .ok n
  | .bool b => .ok b.toNat
  | .float x =>
    match x.truncate? with
    | some n => .ok n
    | none => .error (if x.isNaN then .badValue else .incidental .overflow "")
  | .text s => textToInt s.toList
  | .code c => textToInt c.text.toList
  | .bytes _ b =>
    match Numeral.asciiChars? b with
    | some cs => textToInt cs
    | none => .error .badValue
  | .fp x => .ok x.val
  | .amount a => .ok a.val
  | .blockTime t => .ok t.val
  | _ => .error .wrongType

/-- The number of parts of a value that has parts. -/
def length? : Value → Option Nat
  | .text s => some s.length
  | .code c => some c.text.length
  | .bytes _ b => some b.length
  | .list xs | .tuple xs | .set _ xs => some xs.length
  | .dict es | .frozenDict es => some es.length
  | .hashInput h => some h.size
  | .extended (.standard (.message _ headers)) => some headers
  | _ => none

/-- The parts of a value in their order; most values have none to go through. -/
def iterated (v : Value) : Except Fault (List Value) :=
  match v with
  | .list xs | .tuple xs | .set _ xs => .ok xs
  | .dict es | .frozenDict es => .ok (es.map (·.1))
  | .bytes _ b => .ok (b.map fun n => .int n.toNat)
  | _ =>
    match v.text? with
    | some s => .ok (s.toList.map fun c => .text (String.singleton c))
    | none => .error .wrongType

/-- The number of parts of a value; most values have none to count. -/
def length (v : Value) : Except Fault Nat :=
  match v.length? with
  | some n => .ok n
  | none => .error .wrongType

theorem length_bytes (form : ByteForm) (bs : List UInt8) : (bytes form bs).length = .ok bs.length := rfl

/-- The order of byte strings, a beginning before what it begins. -/
def bytesOrder : List UInt8 → List UInt8 → Ordering
  | [], [] => .eq
  | [], _ :: _ => .lt
  | _ :: _, [] => .gt
  | a :: as, b :: bs => (compare a b).then (bytesOrder as bs)

/-- Whether two forms of bytes are in one order: a form that may change is with every form, the one
for good with itself. -/
def formsOrdered : ByteForm → ByteForm → Bool
  | .growable, _ | _, .growable | .fixed, .fixed => true
  | _, _ => false

/-- The order of two values that hold no others, where they are of one ordered type. -/
def leafOrder (a b : Value) : Except Fault (Option Ordering) :=
  match a, b with
  | .amount x, .amount y => .ok (some (compare x.val y.val))
  | .blockTime x, .blockTime y => .ok (some (compare x.val y.val))
  | .bytes form x, .bytes form' y =>
    if formsOrdered form form' then .ok (some (bytesOrder x y)) else .error .wrongType
  | _, _ =>
    match a.text?, b.text? with
    | some s, some t => .ok (some (compare s t))
    | _, _ =>
      match a.numeric?, b.numeric? with
      | some x, some y => .ok (x.order y)
      | _, _ => .error .wrongType

mutual

/-- The order of two values, where they are of one ordered type. None of the relations holds
between a number and what is not a number. -/
def order : Value → Value → Except Fault (Option Ordering)
  | .list xs, .list ys => orderAll xs ys
  | .tuple xs, .tuple ys => orderAll xs ys
  | a, b => leafOrder a b

/-- The order of two sequences: that of the first items that differ, or else of the lengths. -/
def orderAll : List Value → List Value → Except Fault (Option Ordering)
  | [], [] => .ok (some .eq)
  | [], _ :: _ => .ok (some .lt)
  | _ :: _, [] => .ok (some .gt)
  | x :: xs, y :: ys => if x.equal y then orderAll xs ys else order x y

end

/-- Whether a value is a number from zero to a bound. -/
def isWithin (bound : Nat) (v : Value) : Except Fault Bool :=
  match v.numeric? with
  | some x =>
    .ok (((Numeric.whole 0).order x).any Ordering.isLE &&
      (x.order (.whole bound)).any Ordering.isLE)
  | none => .error .wrongType

/-- A byte as an item of a list of bytes. -/
def toByte (v : Value) : Except Fault UInt8 :=
  match v.int? with
  | none => .error .wrongType
  | some n =>
    if 0 ≤ n ∧ n < 256 then .ok (UInt8.ofNat n.toNat) else .error .badValue

/-- The first count of bytes that no word can hold with its sign. -/
def countLimit : Nat := Nat.pow 2 63

/-- The first count of bytes for which there are no addresses. -/
def addressable : Nat := Nat.pow 2 47

/-- The bytes that a byte string takes besides its content. -/
def overhead : Nat := 33

/-- The length of as many zeros as an integer says. -/
def zerosLength (n : Int) : Except Fault Nat :=
  if n < -countLimit ∨ countLimit ≤ n + overhead then .error (.incidental .overflow "")
  else if n < 0 then .error .badValue
  else if addressable ≤ n.toNat then .error (.incidental .memory "")
  else .ok n.toNat

/-- A zero, as many times as a number says. -/
def repeatedZeros (n : Nat) : Except Fault (List UInt8) :=
  if countLimit ≤ n then .error (.incidental .overflow "")
  else if addressable ≤ n then .error (.incidental .memory "")
  else .ok (List.replicate n 0)

/-- The byte string that a value converts to: its content, its items as bytes, or as many zeros
as an integer says. -/
def toBytes : Value → Except Fault (List UInt8)
  | .bytes _ b => .ok b
  | .symbol s => .ok s.bytes
  | .list xs | .tuple xs => xs.mapM toByte
  | .dict es | .frozenDict es => es.mapM (toByte ·.1)
  | v =>
    match v.int? with
    | some n => (zerosLength n).map fun k => List.replicate k 0
    | none => .error .wrongType

theorem toBytes_bytes (form : ByteForm) (bs : List UInt8) : (bytes form bs).toBytes = .ok bs := rfl

/-- The length of the byte string that a value converts to. It is known without the zeros that an
integer says. -/
def bytesLength (v : Value) : Except Fault Nat :=
  match v.int? with
  | some n => zerosLength n
  | none => v.toBytes.map List.length

end Value
end AccountInput
