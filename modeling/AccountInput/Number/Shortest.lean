import AccountInput.Number.Double

namespace AccountInput
namespace Double

/-- The least `k` with `num / den < 10 ^ k`, for a positive fraction of binary64 magnitude. -/
def decimalPoint (num den : Nat) : Int :=
  let g : Int := ((num.log2 : Int) - den.log2 - 1) * 30103 / 100000
  let below (k : Int) : Bool :=
    let (n, d) := scaleDownTen num den k
    n < d
  if below g then g else if below (g + 1) then g + 1 else g + 2

/-- The reals that round to `m * 2 ^ e`, in quarters of `2 ^ e`: the gap below a power of two
is half as wide. -/
def roundingBounds (m : Nat) (e : Int) : Nat × Nat :=
  if m = Nat.pow 2 52 ∧ e ≠ -1074 then (4 * m - 1, 4 * m + 2) else (4 * m - 2, 4 * m + 2)

/-- Whether `c * 10 ^ q` rounds to `m * 2 ^ e`: it lies between the bounds, which belong to an
even mantissa. -/
def readsBack (m : Nat) (e : Int) (c : Nat) (q : Int) : Bool :=
  let (low, high) := roundingBounds m e
  let (n, d) := scaleDownTen c 1 (-q)
  let (n', d') := scaleDown n d (e - 2)
  if m % 2 = 0 then low * d' ≤ n' && n' ≤ high * d' else low * d' < n' && n' < high * d'

/-- The digits on the grid of `10 ^ q` that read back as `m * 2 ^ e`, the nearer of the two
neighbours first and an exact tie to the even one. -/
def onGrid (m : Nat) (e : Int) (q : Int) : Option Nat :=
  let (a, b) := scaleDown m 1 (-e)
  let (n, d) := scaleDownTen a b q
  let near := roundedQuotient n d
  let far := if near = n / d then near + 1 else n / d
  if readsBack m e near q then some near
  else if readsBack m e far q then some far
  else none

/-- Search for the coarsest grid, from `places` digits to 17. -/
def coarsest (m : Nat) (e point : Int) : (fuel : Nat) → (places : Nat) → Nat × Int
  | 0, places => ((onGrid m e (point - places)).getD 0, point - places)
  | fuel + 1, places =>
    match onGrid m e (point - places) with
    | some c => (c, point - places)
    | none => coarsest m e point fuel (places + 1)

/-- The fewest digits that read back, and the power of ten that the last one counts. -/
def shortestDigits (m : Nat) (e : Int) : Nat × Int :=
  let (a, b) := scaleDown m 1 (-e)
  coarsest m e (decimalPoint a b) 16 1

/-- Where a layout stops being positional, and how it spells the rest. -/
structure Layout where
  leastPoint : Int
  greatestPoint : Int
  leastExponentDigits : Nat

/-- Positional from `0.0001` up to sixteen digits before the point; else one digit, the rest
after a point, and a signed exponent of at least two digits. -/
def standard : Layout := ⟨-3, 16, 2⟩

def dropTrailingZeros (ds : List Char) : List Char :=
  (ds.reverse.dropWhile (· = '0')).reverse

def padLeft (width : Nat) (c : Char) (s : List Char) : List Char :=
  List.replicate (width - s.length) c ++ s

def exponentText (leastDigits : Nat) (x : Int) : List Char :=
  let sign := if x < 0 then '-' else '+'
  sign :: padLeft leastDigits '0' (Nat.toDigits 10 x.natAbs)

/-- Digits with the decimal point after the first `point` of them. -/
def positional (ds : List Char) (point : Int) : List Char :=
  if point ≤ 0 then ['0', '.'] ++ List.replicate (-point).toNat '0' ++ ds
  else
    let n := point.toNat
    if ds.length ≤ n then ds ++ List.replicate (n - ds.length) '0' ++ ['.', '0']
    else ds.take n ++ ['.'] ++ ds.drop n

/-- The text of significant digits whose decimal point stands after `point` of them. -/
def Layout.render (l : Layout) (ds : List Char) (point : Int) : List Char :=
  if l.leastPoint ≤ point ∧ point ≤ l.greatestPoint then positional ds point
  else
    match ds with
    | [] => []
    | [d] => d :: 'e' :: exponentText l.leastExponentDigits (point - 1)
    | d :: rest => d :: '.' :: rest ++ 'e' :: exponentText l.leastExponentDigits (point - 1)

/-- The standard text of a number: the shortest that reads back. -/
def text : Double → String
  | .nan => "nan"
  | .infinite neg => if neg then "-inf" else "inf"
  | .finite neg m e _ =>
    let body :=
      if m = 0 then ['0', '.', '0']
      else
        let (c, q) := shortestDigits m e
        let ds := Nat.toDigits 10 c
        standard.render (dropTrailingZeros ds) (ds.length + q)
    String.ofList (if neg then '-' :: body else body)

end Double
end AccountInput
