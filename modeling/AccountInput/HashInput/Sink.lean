import AccountInput.Checked.Field
import AccountInput.HashInput.Step

namespace AccountInput
namespace HashInput

/-- An operation on hash input under construction. Where it fails, it leaves the input that it
has reached. -/
abbrev Sink := ExceptT Fault (StateM HashInput)

namespace Sink

/-- The outcome of an operation on an input, and the input that it leaves. -/
def on (act : Sink Unit) (h : HashInput) : Except Fault Unit × HashInput := act.run.run h

/-- Appends an atom, if the checks on it have passed. -/
def appendAtom (a : Except Fault Atom) : Sink Unit := do
  let a ← a
  modify (·.push a)

/-- The five atoms of a value that has the parts of a schedule. -/
def appendSchedule (v : Value) : Sink Unit := do
  appendAtom (amountPartAtom v "initial_minimum_balance")
  appendAtom (timePartAtom v "cliff_time")
  appendAtom (amountPartAtom v "cliff_amount")
  appendAtom (timePartAtom v "vesting_period")
  appendAtom (amountPartAtom v "vesting_increment")

/-- The mark of the variant, then the schedule that it carries or the default one. -/
def appendTiming (v : Value) : Sink Unit :=
  match v with
  | .timing .untimed => do
    appendAtom (packedAtom (.int 0) (.int 1))
    appendSchedule (.schedule .default)
  | .timing (.timed d) => do
    appendAtom (packedAtom (.int 1) (.int 1))
    appendSchedule (.schedule d)
  | _ => throw (.stated .wrongType ("expected Untimed or Timed, got " ++ v.typeName))

/-- The logical bytes of a symbol, padded and read as an element. -/
def appendSymbol (v : Value) : Sink Unit :=
  match v with
  | .symbol s => do
    let x ← Fp.readValue (.bytes .fixed (TokenSymbol.padded TokenSymbol.bufferBytes s.logical))
    appendAtom (packedAtom (.fp x) (.int TokenSymbol.bits))
  | _ => throw .noAttribute

/-- The input that an operation makes of an empty one. -/
def fresh (act : Sink Unit) : Except Fault HashInput :=
  match act.on .empty with
  | (.ok _, h) => .ok h
  | (.error f, _) => .error f

/-- What a value hands out as hash input. A value of an account appends itself to an empty one. -/
def handedOut (v : Value) : Except Fault Value :=
  match v with
  | .amount a => (fresh (appendAtom (fieldAtom (.int a.val)))).map .hashInput
  | .schedule _ => (fresh (appendSchedule v)).map .hashInput
  | .timing _ | .foreignTiming => (fresh (appendTiming v)).map .hashInput
  | .symbol _ => (fresh (appendSymbol v)).map .hashInput
  | _ => produced v

/-- Appends the atoms of what a value hands out. -/
def splice (v : Value) : Sink Unit := do
  match ← handedOut v with
  | .hashInput k => modify (· ++ k)
  | _ => throw (.stated .wrongType "to_chunked_roinput() must return a ChunkedROInput")

/-- An operation comes out as a list of atoms: either it appends them all, or it fails and leaves
the input as it was. -/
def Appends (act : Sink Unit) (outcome : Except Fault (List Atom)) : Prop :=
  ∀ h, act.on h = match outcome with
    | .ok as => (.ok (), h ++ ⟨as⟩)
    | .error f => (.error f, h)

theorem appends_appendAtom (a : Except Fault Atom) : (appendAtom a).Appends (a.map fun a => [a]) := by
  intro h
  cases a with
  | error f => rfl
  | ok a => rfl

theorem appends_throw (f : Fault) : Sink.Appends (throw f) (.error f) := fun _ => rfl

/-- Only operations that come through leave nothing behind when they are put together: if the
second one failed, the atoms of the first would stay. -/
theorem Appends.andThen {act next : Sink Unit} {as bs : List Atom} (first : act.Appends (.ok as))
    (second : next.Appends (.ok bs)) : Sink.Appends (do act; next) (.ok (as ++ bs)) := by
  intro h
  have reached : act.run.run h = (.ok (), h ++ ⟨as⟩) := first h
  have onward : Sink.on (do act; next) h = next.on (h ++ ⟨as⟩) := by
    simp only [Sink.on, ExceptT.run_bind, StateT.run_bind, reached]
    rfl
  have assoc : (h ++ ⟨as⟩ : HashInput) ++ ⟨bs⟩ = h ++ ⟨as ++ bs⟩ :=
    congrArg HashInput.mk (List.append_assoc h.atoms as bs)
  rw [onward, second]
  exact congrArg (Prod.mk (Except.ok ())) assoc

theorem Appends.fresh_eq {act : Sink Unit} {outcome : Except Fault (List Atom)} (appends : act.Appends outcome) :
    act.fresh = outcome.map HashInput.mk := by
  unfold fresh
  rw [appends .empty]
  cases outcome with
  | error f => rfl
  | ok as => rfl

end Sink

def Step.perform : Step → Sink Unit
  | field v => Sink.appendAtom (fieldAtom v)
  | packed v bits => Sink.appendAtom (packedAtom v bits)
  | bool v => Sink.appendAtom (boolAtom v)
  | u32 v => Sink.appendAtom (u32Atom v)
  | u64 v => Sink.appendAtom (u64Atom v)
  | produced v => Sink.splice v
  | schedule v => Sink.appendSchedule v
  | timing v => Sink.appendTiming v
  | symbol v => Sink.appendSymbol v

end HashInput
end AccountInput
