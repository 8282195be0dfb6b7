import AccountInput.Number.Decimal
import AccountInput.Number.Double
import AccountInput.Toml.Text
import AccountInput.Value.Basic

namespace AccountInput
namespace Toml

/-- Why a text is not read. -/
inductive ReadError where
  | malformed
  /-- An integer has too many digits. -/
  | tooManyDigits
  /-- Arrays and inline tables stand too deep within each other. -/
  | tooDeep
deriving DecidableEq

/-- The digits after a first one, with an underscore before any of them. -/
def moreDigits (digit? : Char → Option Nat) : List Char → List Nat × List Char
  | '_' :: c :: rest =>
    match digit? c with
    | some d =>
      let (ds, rest) := moreDigits digit? rest
      (d :: ds, rest)
    | none => ([], '_' :: c :: rest)
  | c :: rest =>
    match digit? c with
    | some d =>
      let (ds, rest) := moreDigits digit? rest
      (d :: ds, rest)
    | none => ([], c :: rest)
  | [] => ([], [])

/-- A run of digits; there is none without a first digit. -/
def digits? (digit? : Char → Option Nat) : List Char → Option (List Nat × List Char)
  | [] => none
  | c :: rest => do
    let d ← digit? c
    let (ds, rest) := moreDigits digit? rest
    return (d :: ds, rest)

def digitBelow? (base : Nat) (c : Char) : Option Nat :=
  (Text.hexDigit? c).bind fun d => if d < base then some d else none

def marked? : List Char → Option (Nat × List Char)
  | '0' :: m :: rest => do
    let base ← if m = 'x' then some 16 else if m = 'o' then some 8
      else if m = 'b' then some 2 else none
    let (ds, rest) ← digits? (digitBelow? base) rest
    return (ds.foldl (fun n d => base * n + d) 0, rest)
  | _ => none

def signed : List Char → Bool × List Char
  | '-' :: rest => (true, rest)
  | '+' :: rest => (false, rest)
  | cs => (false, cs)

/-- The digits of a whole part: a zero alone, or digits that do not begin with one. -/
def wholePart? : List Char → Option (List Nat × List Char)
  | '0' :: rest => some ([0], rest)
  | cs => digits? Text.asciiDigit? cs

/-- The digits after a point; none where no digit follows it. -/
def fraction? : List Char → Option (List Nat × List Char)
  | '.' :: rest => digits? Text.asciiDigit? rest
  | _ => none

/-- An exponent; none where no digit follows its letter and sign. -/
def exponent? : List Char → Option (Int × List Char)
  | e :: rest =>
    if e = 'e' ∨ e = 'E' then do
      let (negative, rest) := signed rest
      let (ds, rest) ← digits? Text.asciiDigit? rest
      let n : Int := Decimal.ofDigits ds
      return (if negative then -n else n, rest)
    else none
  | [] => none

/-- A decimal number: binary64 if it has a fraction or an exponent. -/
def decimal? (cs : List Char) : Option (Except ReadError Value × List Char) := do
  let (negative, rest) := signed cs
  let (whole, rest) ← wholePart? rest
  match fraction? rest, exponent? rest with
  | some (places, rest), _ =>
    let (exponent, rest) := (exponent? rest).getD (0, rest)
    let n := Decimal.ofDigits (whole ++ places)
    return (.ok (.float (.ofDecimal negative n (exponent - places.length))), rest)
  | none, some (exponent, rest) =>
    return (.ok (.float (.ofDecimal negative (Decimal.ofDigits whole) exponent)), rest)
  | none, none =>
    let n : Int := Decimal.ofDigits whole
    if whole.length ≤ Decimal.digitLimit then
      return (.ok (.int (if negative then -n else n)), rest)
    else return (.error .tooManyDigits, rest)

def named? : List Char → Option (Double × List Char)
  | 'i' :: 'n' :: 'f' :: rest => some (.infinite false, rest)
  | 'n' :: 'a' :: 'n' :: rest => some (.nan, rest)
  | '+' :: 'i' :: 'n' :: 'f' :: rest => some (.infinite false, rest)
  | '-' :: 'i' :: 'n' :: 'f' :: rest => some (.infinite true, rest)
  | '+' :: 'n' :: 'a' :: 'n' :: rest => some (.nan, rest)
  | '-' :: 'n' :: 'a' :: 'n' :: rest => some (.nan, rest)
  | _ => none

def number (cs : List Char) : Except ReadError (Value × List Char) :=
  match marked? cs with
  | some (n, rest) => .ok (.int n, rest)
  | none =>
    match decimal? cs with
    | some (v, rest) => v.map (·, rest)
    | none =>
      match named? cs with
      | some (x, rest) => .ok (.float x, rest)
      | none => .error .malformed

end Toml
end AccountInput
