import AccountInput.Number.Endian

namespace AccountInput

/-- The field has `2 ^ 254 + 45560315531419706090280762371685220353` elements. -/
def modulus : Nat :=
  28948022309329048855892746252171976963363056481941560715954676764349967630337

def modulusBits : Nat := 255

def elementBytes : Nat := 32

/-- An element of the field. -/
structure Fp where
  val : Nat
  lt_modulus : val < modulus
deriving DecidableEq

namespace Fp

theorem ext {x y : Fp} (val : x.val = y.val) : x = y := by
  cases x; cases y; cases val; rfl

theorem modulus_pos : 0 < modulus := by decide

def ofInt (x : Int) : Fp where
  val := (x % modulus).toNat
  lt_modulus := by
    have pos := modulus_pos
    have low := Int.emod_nonneg x (by omega : (modulus : Int) ≠ 0)
    have high := Int.emod_lt_of_pos x (by omega : (0 : Int) < modulus)
    omega

@[simp] theorem ofInt_val (x : Fp) : ofInt x.val = x := by
  apply ext
  have reduced : (x.val : Int) % modulus = x.val := by
    rw [← Int.natCast_emod, Nat.mod_eq_of_lt x.lt_modulus]
  simp only [ofInt, reduced, Int.toNat_natCast]

/-- The element with a given representative, if it is one. -/
def ofNat? (n : Nat) : Option Fp :=
  if h : n < modulus then some ⟨n, h⟩ else none

theorem ofNat?_val (x : Fp) : ofNat? x.val = some x := dif_pos x.lt_modulus

def zero : Fp := ⟨0, modulus_pos⟩

def one : Fp := ⟨1, by decide⟩

def add (x y : Fp) : Fp := ofInt (x.val + y.val)

def mul (x y : Fp) : Fp := ofInt (x.val * y.val)

instance : Add Fp := ⟨add⟩
instance : Mul Fp := ⟨mul⟩

/-- The power `b ^ e` modulo `m`, by squaring. -/
def powMod (b e m : Nat) : Nat :=
  if e = 0 then 1 % m
  else
    let half := powMod (b * b % m) (e / 2) m
    if e % 2 = 1 then b * half % m else half
termination_by e

def natPow (x : Fp) (e : Nat) : Fp := ofInt (powMod x.val e modulus)

/-- Euclid's algorithm on `a` and `b`, which are `s` times and `t` times one number up to multiples of
another: their greatest common divisor, and how many times that number it is. -/
def euclid (a b : Nat) (s t : Int) : Nat × Int :=
  if b = 0 then (a, s)
  else euclid b (a % b) t (s - (a / b : Nat) * t)
termination_by b
decreasing_by exact Nat.mod_lt a (by omega)

/-- The inverse, which only an element without a common divisor with the modulus has. -/
def inverse? (x : Fp) : Option Fp :=
  match euclid x.val modulus 1 0 with
  | (1, s) => some (ofInt s)
  | _ => none

/-- A power with an integer exponent. A negative one asks for the inverse. -/
def pow? (x : Fp) (e : Int) : Option Fp :=
  if 0 ≤ e then some (x.natPow e.toNat)
  else x.inverse?.map fun y => y.natPow (-e).toNat

/-- The written form: 32 bytes, the lowest first. -/
def toBytes (x : Fp) : List UInt8 := littleEndian elementBytes x.val

/-- Whether a byte string is the written form of an element. -/
def isCanonical (bs : List UInt8) : Bool :=
  bs.length == elementBytes && ofLittleEndian bs < modulus

/-- Why a byte string is no written form. -/
inductive ReadError where
  | length (n : Nat)
  | tooLarge
deriving DecidableEq

/-- Reads a written form; a number at or above the modulus is refused, not reduced. -/
def read (bs : List UInt8) : Except ReadError Fp :=
  if bs.length = elementBytes then
    match ofNat? (ofLittleEndian bs) with
    | some x => .ok x
    | none => .error .tooLarge
  else .error (.length bs.length)

/-- The prime by which hashes of numbers are reduced. -/
def hashModulus : Nat := Nat.pow 2 61 - 1

def hash (x : Fp) : Nat := x.val % hashModulus

end Fp

/-- The hash of an integer: that of its magnitude with its sign, where minus one is not used. -/
def intHash (n : Int) : Int :=
  let h : Int := n.sign * (n.natAbs % Fp.hashModulus : Nat)
  if h = -1 then -2 else h

end AccountInput
