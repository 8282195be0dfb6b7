import AccountInput.HashInput.Sink
import Mathlib.Logic.Function.Basic

namespace AccountInput
namespace HashInput

/-- The steps that bring in no atoms made elsewhere: what is spliced in is no input that was put
together by hand, and what is encoded as a schedule is one. -/
def Step.Closed : Step → Prop
  | .produced v => ∀ h, v ≠ .producer (.hashInput h)
  | .schedule v => ∃ d, v = .schedule d
  | _ => True

abbrev Builders := Nat → HashInput

/-- A call on one of the builders. -/
inductive Call where
  | own (target : Nat) (s : Step) (closed : s.Closed)
  /-- Splices in what an object hands out that holds a builder. -/
  | splice (target source : Nat)

namespace Call

def target : Call → Nat
  | own n _ _ => n
  | splice n _ => n

/-- The step that a call is, with the builder that it splices in as it is at that time. -/
def step (bs : Builders) : Call → Step
  | own _ s _ => s
  | splice _ m => .produced (.producer (.hashInput (bs m)))

end Call

namespace Builders

def empty : Builders := fun _ => .empty

/-- The outcome of a call, and the builders that it leaves. -/
def perform (bs : Builders) (c : Call) : Except Fault Unit × Builders :=
  let (outcome, h) := (c.step bs).perform.on (bs c.target)
  (outcome, Function.update bs c.target h)

/-- The builders after a call that may have failed. -/
def after (bs : Builders) (c : Call) : Builders := (bs.perform c).2

def run (calls : List Call) : Builders := calls.foldl after empty

/-- The atoms that a call has for a builder. A call that fails, and one on another builder, has
none. -/
def contribution (n : Nat) (bs : Builders) (c : Call) : List Atom :=
  match (c.step bs).atoms with
  | .ok as => if c.target = n then as else []
  | .error _ => []

/-- The atoms that calls have for a builder, one call after another. -/
def contributions (n : Nat) (bs : Builders) : List Call → List Atom
  | [] => []
  | c :: rest => contribution n bs c ++ contributions n (bs.after c) rest

end Builders
end HashInput
end AccountInput
