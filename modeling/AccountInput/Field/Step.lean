import AccountInput.Checked.Field

namespace AccountInput
namespace Fp

/-- A step; its operand may stand on either side. -/
inductive Step where
  | add (y : Value)
  | addTo (y : Value)
  | mul (y : Value)
  | mulBy (y : Value)
  | pow (e : Value)
  /-- Write the element and read it again. -/
  | reread
  | replace (y : Fp)

def take (x : Fp) : Step → Except Fault Fp
  | .add y => combine (· + ·) (.fp x) y
  | .addTo y => combine (· + ·) y (.fp x)
  | .mul y => combine (· * ·) (.fp x) y
  | .mulBy y => combine (· * ·) y (.fp x)
  | .pow e => x.power e .null
  | .reread => readValue (.bytes .fixed x.toBytes)
  | .replace y => .ok y

def after (x : Fp) (s : Step) : Fp :=
  match x.take s with
  | .ok y => y
  | .error _ => x

def run (x : Fp) (steps : List Step) : Fp := steps.foldl after x

end Fp
end AccountInput
