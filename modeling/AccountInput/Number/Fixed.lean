import AccountInput.Number.Shortest

namespace AccountInput
namespace Double

/-- A natural with a point before its last `places` digits. -/
def pointed (places n : Nat) (keepPoint : Bool) : List Char :=
  let ds := padLeft (places + 1) '0' (Nat.toDigits 10 n)
  let whole := ds.take (ds.length - places)
  let fraction := ds.drop (ds.length - places)
  if places = 0 then (if keepPoint then whole ++ ['.'] else whole)
  else whole ++ '.' :: fraction

def placesText (num den places : Nat) (keepPoint : Bool) : List Char :=
  pointed places (roundedQuotient (num * Nat.pow 10 places) den) keepPoint

/-- The digits of a fraction at a number of digits, and the exponent of the first. -/
def significant (num den digits : Nat) : Nat × Int :=
  if num = 0 then (0, 0)
  else
    let point := decimalPoint num den
    let (n, d) := scaleDownTen num den (point - digits)
    let c := roundedQuotient n d
    if c = Nat.pow 10 digits then (Nat.pow 10 (digits - 1), point) else (c, point - 1)

/-- A fraction in the notation with an exponent, of which two digits at least are written. -/
def exponentNotation (num den places : Nat) (keepPoint : Bool) : List Char :=
  let (c, x) := significant num den (places + 1)
  pointed places c keepPoint ++ 'e' :: exponentText 2 x

/-- Digits without the zeros that end them, nor the point before those. -/
def dropZeroPlaces (cs : List Char) : List Char :=
  if cs.contains '.' then
    let kept := (cs.reverse.dropWhile (· = '0')).reverse
    if kept.getLast? = some '.' then kept.dropLast else kept
  else cs

/-- A fraction in the notation that suits its exponent, with a number of digits. Unless they are
to be kept, zeros at the end are left out. -/
def generalText (num den digits : Nat) (keepZeros : Bool) : List Char :=
  let digits := max digits 1
  let (c, x) := significant num den digits
  let tidy (cs : List Char) := if keepZeros then cs else dropZeroPlaces cs
  if -4 ≤ x ∧ x < digits then
    tidy (placesText num den ((digits : Int) - 1 - x).toNat keepZeros)
  else tidy (pointed (digits - 1) c keepZeros) ++ 'e' :: exponentText 2 x

end Double
end AccountInput
