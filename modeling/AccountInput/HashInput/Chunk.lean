import AccountInput.HashInput.Basic
import Mathlib.Algebra.Order.Ring.Int
import Mathlib.Data.List.Chain

namespace AccountInput
namespace HashInput

/-- Packed values that share an element, with their widths. -/
abbrev Chunk := List (Fp × Int)

namespace Chunk

def width (c : Chunk) : Int := (c.map (·.2)).sum

/-- The number of a chunk. A value stands above the bits of those that follow it. -/
def value : Chunk → Nat
  | [] => 0
  | (v, _) :: rest => v.val * 2 ^ (width rest).toNat + value rest

/-- A split of packed values into chunks by the packing rule: the first value of the next chunk
would have brought a chunk to the width of the modulus. -/
structure Split (ps : List (Fp × Int)) (cs : List Chunk) : Prop where
  flatten_eq : cs.flatten = ps
  nonempty : ∀ c ∈ cs, c ≠ []
  fits : ∀ c ∈ cs, c.width ≤ Atom.maxBits
  full : cs.IsChain fun c next => ∀ p ∈ next.head?, (modulusBits : Int) ≤ c.width + p.2

/-- The chunks of packed values after those of an open chunk. -/
def splitOnto (c : Chunk) : List (Fp × Int) → List Chunk
  | [] => if c.isEmpty then [] else [c]
  | p :: rest =>
    if c.width + p.2 < modulusBits then splitOnto (c ++ [p]) rest
    else c :: splitOnto [p] rest

@[simp] theorem width_nil : width [] = 0 := rfl

@[simp] theorem width_cons (p : Fp × Int) (c : Chunk) : width (p :: c) = p.2 + width c := by
  simp only [width, List.map_cons, List.sum_cons]

@[simp] theorem width_append (c d : Chunk) : width (c ++ d) = width c + width d := by
  simp only [width, List.map_append, List.sum_append]

end Chunk
end HashInput
end AccountInput
