import AccountInput.Field.Step
import Mathlib.Algebra.Ring.Int.Defs

namespace AccountInput
namespace Fp

/-- The integer that an operand is; an element is its representative. -/
def operandInteger? : Value → Option Int
  | .fp y => some y.val
  | v => v.int?

namespace Step

/-- Whether exact arithmetic can take a step: its operand is an element or an integer, and its exponent an
integer that is not negative. -/
def IsExact : Step → Prop
  | .add y | .addTo y | .mul y | .mulBy y => ∃ k, operandInteger? y = some k
  | .pow e => ∃ k : Nat, e.int? = some (k : Int)
  | .reread | .replace _ => True

def integerAfter? (n : Int) : Step → Option Int
  | .add y => (operandInteger? y).map fun k => n + k
  | .addTo y => (operandInteger? y).map fun k => k + n
  | .mul y => (operandInteger? y).map fun k => n * k
  | .mulBy y => (operandInteger? y).map fun k => k * n
  | .pow e => e.int?.bind fun k => if 0 ≤ k then some (n ^ k.toNat) else none
  | .reread => some n
  | .replace y => some y.val

end Step

end Fp
end AccountInput
