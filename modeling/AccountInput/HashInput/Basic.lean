import AccountInput.Field

namespace AccountInput

/-- A piece of hash input: an element absorbed whole, or a value that takes a given number of
bits. -/
inductive Atom where
  | field (value : Fp)
  | packed (value : Fp) (bits : Int)
deriving DecidableEq

namespace Atom

def value : Atom → Fp
  | .field v => v
  | .packed v _ => v

/-- The width of a packed value; an element absorbed whole has none. -/
def width? : Atom → Option Int
  | .field _ => none
  | .packed _ bits => some bits

/-- The widest a packed value may be: one bit less than the modulus. -/
def maxBits : Nat := modulusBits - 1

/-- The atoms that appending makes: a packed value has from 1 to 254 bits and fits in them. -/
def Valid : Atom → Prop
  | .field _ => True
  | .packed v bits => 1 ≤ bits ∧ bits ≤ maxBits ∧ v.val < Nat.pow 2 bits.toNat

instance (a : Atom) : Decidable a.Valid := by
  cases a <;> unfold Valid <;> infer_instance

end Atom

/-- Hash input under construction. -/
structure HashInput where
  atoms : List Atom
deriving DecidableEq

namespace HashInput

def empty : HashInput := ⟨[]⟩

def push (h : HashInput) (a : Atom) : HashInput := ⟨h.atoms ++ [a]⟩

def append (h k : HashInput) : HashInput := ⟨h.atoms ++ k.atoms⟩

instance : Append HashInput := ⟨append⟩

def size (h : HashInput) : Nat := h.atoms.length

/-- The elements absorbed whole, in order. -/
def fields (h : HashInput) : List Fp :=
  h.atoms.filterMap fun
    | .field v => some v
    | .packed .. => none

/-- The packed values with their widths, in order. -/
def packed (h : HashInput) : List (Fp × Int) :=
  h.atoms.filterMap fun
    | .field _ => none
    | .packed v bits => some (v, bits)

/-- What is known of the atoms without their values: which of them are packed, and how wide. -/
def shape (h : HashInput) : List (Option Int) := h.atoms.map Atom.width?

@[simp] theorem atoms_empty : empty.atoms = [] := rfl

@[simp] theorem atoms_push (h : HashInput) (a : Atom) : (h.push a).atoms = h.atoms ++ [a] := rfl

@[simp] theorem atoms_append (h k : HashInput) : (h ++ k).atoms = h.atoms ++ k.atoms := rfl

/-- How packing fails, which takes an atom that appending never makes. -/
inductive PackingError where
  | tooLarge
  | negativeShift
deriving DecidableEq

def element (acc : Nat) : Except PackingError Fp :=
  match Fp.ofNat? acc with
  | some x => .ok x
  | none => .error .tooLarge

/-- Packs values from the left onto a number `acc` of a given width. A value that would bring the
width to that of the modulus closes the element and begins the next one. -/
def packOnto (acc : Nat) (width : Int) : List (Fp × Int) → Except PackingError (List Fp)
  | [] => if 0 < width then (element acc).map ([·]) else .ok []
  | (v, bits) :: rest =>
    if width + bits < modulusBits then
      if bits < 0 then .error .negativeShift
      else packOnto ((acc <<< bits.toNat) ||| v.val) (width + bits) rest
    else do
      let closed ← element acc
      let others ← packOnto v.val bits rest
      return closed :: others

/-- What the sponge absorbs: the whole elements first, then the packed ones. -/
def toFields (h : HashInput) : Except PackingError (List Fp) :=
  (packOnto 0 0 h.packed).map (h.fields ++ ·)

end HashInput

end AccountInput
