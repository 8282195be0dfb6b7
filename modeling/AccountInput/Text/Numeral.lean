import AccountInput.Number.Decimal
import AccountInput.Text.Blank
import AccountInput.Text.Digit

namespace AccountInput
namespace Numeral

/-- The blanks that may stand around a number: those around any text, apart from the four control
characters that part records. -/
def isBlank (c : Char) : Bool := Text.isBlank c && !(0x1c ≤ c.toNat && c.toNat ≤ 0x1f)

/-- A list without the blanks at both ends. -/
def trim (cs : List Char) : List Char :=
  ((cs.dropWhile isBlank).reverse.dropWhile isBlank).reverse

/-- Digits of one kind, parted by single underscores. An underscore stands after a digit and
before another. -/
def separated (digit? : Char → Option Nat) : (afterDigit : Bool) → List Char → Option (List Nat)
  | afterDigit, [] => if afterDigit then some [] else none
  | afterDigit, c :: rest =>
    if c = '_' then
      if afterDigit then separated digit? false rest else none
    else do
      let d ← digit? c
      let ds ← separated digit? true rest
      return d :: ds

def signed : List Char → Bool × List Char
  | '-' :: rest => (true, rest)
  | '+' :: rest => (false, rest)
  | cs => (false, cs)

def withSign (negative : Bool) (n : Nat) : Int := if negative then -(n : Int) else n

/-- The number of decimal digits, if they are not too many. -/
def ofDecimalDigits (ds : List Nat) : Option Nat :=
  if ds.length ≤ Decimal.digitLimit then some (Decimal.ofDigits ds) else none

def decimal? (cs : List Char) : Option Int := do
  let (negative, body) := signed (trim cs)
  let ds ← separated Text.decimalValue? false body
  let n ← ofDecimalDigits ds
  return withSign negative n

/-- A digit of any script below a base of at most ten, or a hexadecimal digit. -/
def digitBelow (base : Nat) (c : Char) : Option Nat :=
  match (Text.decimalValue? c).orElse fun _ => Text.hexDigit? c with
  | some d => if d < base then some d else none
  | none => none

/-- The base that a mark such as `0x` names, and the digits after the mark. One underscore may
follow a mark. -/
def marked? : List Char → Option (Nat × List Char)
  | z :: m :: rest =>
    if Text.decimalValue? z = some 0 then
      let base? : Option Nat :=
        if m = 'x' ∨ m = 'X' then some 16
        else if m = 'o' ∨ m = 'O' then some 8
        else if m = 'b' ∨ m = 'B' then some 2
        else none
      base?.map fun base =>
        match rest with
        | '_' :: digits => (base, digits)
        | digits => (base, digits)
    else none
  | _ => none

/-- An integer in the notation of program text: decimal, or in a base that a mark names. A decimal
number other than zero does not begin with a zero. -/
def literal? (cs : List Char) : Option Int := do
  let (negative, body) := signed (trim cs)
  match marked? body with
  | some (base, digits) =>
    let ds ← separated (digitBelow base) false digits
    return withSign negative (ds.foldl (fun n d => base * n + d) 0)
  | none =>
    let ds ← separated Text.decimalValue? false body
    let n ← ofDecimalDigits ds
    if ds.head? = some 0 ∧ n ≠ 0 then none else return withSign negative n

def asciiChars? (bs : List UInt8) : Option (List Char) :=
  if bs.all (· < 0x80) then some (bs.map fun b => Char.ofNat b.toNat) else none

end Numeral
end AccountInput
