import AccountInput.Checked.HashInput

namespace AccountInput
namespace HashInput

/-- What a step appends. -/
inductive Step where
  | field (v : Value)
  | packed (v bits : Value)
  | bool (v : Value)
  | u32 (v : Value)
  | u64 (v : Value)
  /-- What another value produces as hash input. -/
  | produced (v : Value)
  | schedule (v : Value)
  | timing (v : Value)
  | symbol (v : Value)

def Step.atoms : Step → Except Fault (List Atom)
  | field v => (fieldAtom v).map fun a => [a]
  | packed v bits => (packedAtom v bits).map fun a => [a]
  | bool v => (boolAtom v).map fun a => [a]
  | u32 v => (u32Atom v).map fun a => [a]
  | u64 v => (u64Atom v).map fun a => [a]
  | produced v => producedAtoms v
  | schedule v => scheduleAtoms v
  | timing v => timingAtoms v
  | symbol v => symbolAtoms v

/-- The input with the atoms of a step after its own. -/
def add (h : HashInput) (s : Step) : Except Fault HashInput :=
  s.atoms.map fun as => h ++ ⟨as⟩

def after (h : HashInput) (s : Step) : HashInput :=
  match h.add s with
  | .ok k => k
  | .error _ => h

def run (steps : List Step) : HashInput := steps.foldl after empty

end HashInput
end AccountInput
