import AccountInput.Document.Number

namespace AccountInput
namespace Document

def initialMinimumBalance : String := "initialMinimumBalance"
def cliffTime : String := "cliffTime"
def cliffAmount : String := "cliffAmount"
def vestingPeriod : String := "vestingPeriod"
def vestingIncrement : String := "vestingIncrement"

/-- The five keys of a schedule in the order of the hash input. -/
def scheduleKeys : List String :=
  [initialMinimumBalance, cliffTime, cliffAmount, vestingPeriod, vestingIncrement]

def schedule (ms : List (Value × Value)) : Except Fault Schedule := do
  let a ← number ms initialMinimumBalance
  let b ← number ms cliffTime
  let c ← number ms cliffAmount
  let d ← number ms vestingPeriod
  let e ← number ms vestingIncrement
  return {
    initialMinimumBalance := ⟨a.1, a.2⟩
    cliffTime := ⟨b.1, b.2⟩
    cliffAmount := ⟨c.1, c.2⟩
    vestingPeriod := ⟨d.1, d.2⟩
    vestingIncrement := ⟨e.1, e.2⟩ }

end Document

def Schedule.ofDocument (doc : Value) : Except Fault Schedule := do
  let ms ← Document.members doc
  Document.schedule ms

def Schedule.toDocument (d : Schedule) : List (Value × Value) :=
  Value.ofFields (Document.scheduleKeys.zip (d.scalars.map fun n => .text (toString n)))

/-- The timing of a document, and the problem that was taken for the absence of a schedule. A
fault that is no problem with the document is passed on. -/
def Timing.ofDocument (doc : Value) : Except Fault (Timing × Option Problem) :=
  match Schedule.ofDocument doc with
  | .ok d => .ok (.timed d, none)
  | .error (.problem p chained) =>
    if p.kind = .graphqlParse then .ok (.untimed, some p) else .error (.problem p chained)
  | .error f => .error f

end AccountInput
