namespace AccountInput

/-- The pairs `(m, e)` that name each binary64 magnitude once: a full 53-bit mantissa, or the
lowest exponent. -/
def Canonical (m : Nat) (e : Int) : Prop :=
  m < Nat.pow 2 53 ∧ -1074 ≤ e ∧ e ≤ 971 ∧ (Nat.pow 2 52 ≤ m ∨ e = -1074)

instance (m : Nat) (e : Int) : Decidable (Canonical m e) := by
  unfold Canonical; infer_instance

/-- A binary64 number. The zeros are told apart by their sign. -/
inductive Double where
  | nan
  | infinite (negative : Bool)
  | finite (negative : Bool) (m : Nat) (e : Int) (canonical : Canonical m e)
deriving DecidableEq

namespace Double

/-- The quotient of two naturals to the nearest natural, a half to the even neighbour. -/
def roundedQuotient (num den : Nat) : Nat :=
  let q := num / den
  let r := num % den
  if 2 * r > den ∨ (2 * r = den ∧ q % 2 = 1) then q + 1 else q

/-- The fraction `num / den` divided by `2 ^ e`, again as a fraction. -/
def scaleDown (num den : Nat) (e : Int) : Nat × Nat :=
  if 0 ≤ e then (num, den * Nat.pow 2 e.toNat) else (num * Nat.pow 2 (-e).toNat, den)

/-- The fraction `num / den` divided by `10 ^ e`, again as a fraction. -/
def scaleDownTen (num den : Nat) (e : Int) : Nat × Nat :=
  if 0 ≤ e then (num, den * Nat.pow 10 e.toNat) else (num * Nat.pow 10 (-e).toNat, den)

def zero (negative : Bool) : Double := .finite negative 0 (-1074) (by decide)

/-- The number with mantissa `m` at exponent `e`; what fits no exponent is infinite. -/
def ofParts (negative : Bool) (m : Nat) (e : Int) : Double :=
  if h : Canonical m e then .finite negative m e h else .infinite negative

/-- The number nearest to `num / den`, a tie to the even mantissa. -/
def ofRatio (negative : Bool) (num den : Nat) : Double :=
  if num = 0 then zero negative
  else
    let e₀ : Int := max ((num.log2 : Int) - den.log2 - 53) (-1074)
    let first := scaleDown num den e₀
    let e := if first.1 / first.2 < Nat.pow 2 53 then e₀ else e₀ + 1
    let (n, d) := scaleDown num den e
    let m := roundedQuotient n d
    if m = Nat.pow 2 53 then ofParts negative (Nat.pow 2 52) (e + 1) else ofParts negative m e

/-- The number nearest to `digits * 10 ^ exponent`. Outside the range of the format the answer
is fixed by the magnitude alone, and no power is computed. -/
def ofDecimal (negative : Bool) (digits : Nat) (exponent : Int) : Double :=
  if digits = 0 then zero negative
  else
    let magnitude : Int := ((digits.log2 : Int) * 30103) / 100000 + exponent
    if magnitude > 310 then .infinite negative
    else if magnitude < -330 then zero negative
    else
      let (n, d) := scaleDownTen digits 1 (-exponent)
      ofRatio negative n d

def ofInt (n : Int) : Double := ofRatio (n < 0) n.natAbs 1

/-- The number that a sign bit, `width` exponent bits and `places` fraction bits spell in an
interchange format no wider than binary64. -/
def ofFields (width places : Nat) (bits : Nat) : Double :=
  let fraction := bits % Nat.pow 2 places
  let exponent := bits / Nat.pow 2 places % Nat.pow 2 width
  let negative := bits / Nat.pow 2 (places + width) % 2 = 1
  let bias : Int := (Nat.pow 2 (width - 1) : Int) - 1
  if exponent = Nat.pow 2 width - 1 then
    if fraction = 0 then .infinite negative else .nan
  else
    let m := if exponent = 0 then fraction else fraction + Nat.pow 2 places
    let e : Int := (if exponent = 0 then 1 else (exponent : Int)) - bias - places
    let (n, d) := scaleDown m 1 (-e)
    ofRatio negative n d

def isNaN : Double → Bool
  | .nan => true
  | _ => false

def isFinite : Double → Bool
  | .finite .. => true
  | _ => false

def isZero : Double → Bool
  | .finite _ m _ _ => m == 0
  | _ => false

/-- The sign that printing shows; not a number shows none. -/
def isNegative : Double → Bool
  | .nan => false
  | .infinite n => n
  | .finite n .. => n

/-- The magnitude of a finite number as a fraction. -/
def magnitude? : Double → Option (Nat × Nat)
  | .finite _ m e _ => some (scaleDown m 1 (-e))
  | _ => none

/-- A finite number as a signed fraction with a positive denominator. -/
def ratio? : Double → Option (Int × Nat)
  | .finite neg m e _ =>
    let (n, d) := scaleDown m 1 (-e)
    some (if neg then -(n : Int) else n, d)
  | _ => none

/-- The integer part, toward zero; none for the infinities and not a number. -/
def truncate? (x : Double) : Option Int :=
  x.ratio?.map fun (n, d) => n.tdiv d

/-- The order of two numbers; none if either is not a number. -/
def order : Double → Double → Option Ordering
  | .nan, _ => none
  | _, .nan => none
  | .infinite a, .infinite b => some (compare b.toNat a.toNat)
  | .infinite a, .finite .. => some (if a then .lt else .gt)
  | .finite .., .infinite b => some (if b then .gt else .lt)
  | x@(.finite ..), y@(.finite ..) =>
    match x.ratio?, y.ratio? with
    | some (a, b), some (c, d) => some (compare (a * d) (c * b))
    | _, _ => none

/-- The exact order of a number and a ratio with a positive denominator; none if it is not a
number. -/
def orderRatio (x : Double) (n : Int) (d : Nat) : Option Ordering :=
  match x with
  | .nan => none
  | .infinite neg => some (if neg then .lt else .gt)
  | .finite .. =>
    match x.ratio? with
    | some (a, b) => some (compare (a * d) (n * b))
    | none => none

end Double

/-- A ratio with a positive denominator, or a binary64 number. -/
inductive Numeric where
  | ratio (num : Int) (den : Nat)
  | binary (x : Double)
deriving DecidableEq

namespace Numeric

def whole (n : Int) : Numeric := .ratio n 1

/-- The exact order of two numbers; none if one of them is not a number. -/
def order : Numeric → Numeric → Option Ordering
  | .ratio a b, .ratio c d => some (compare (a * d) (c * b))
  | .binary x, .binary y => x.order y
  | .binary x, .ratio n d => x.orderRatio n d
  | .ratio n d, .binary x => (x.orderRatio n d).map Ordering.swap

@[simp] theorem order_whole (a b : Int) : (whole a).order (whole b) = some (compare a b) := by
  simp [whole, order]

def equal (a b : Numeric) : Bool := a.order b == some .eq

end Numeric
end AccountInput
