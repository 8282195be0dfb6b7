import AccountInput.Fault
import AccountInput.Fields
import AccountInput.Text.Hex

namespace AccountInput

/-- A value as a log line shows it: a record becomes the dictionary of its fields. -/
def Value.logged (v : Value) : Except Fault Value :=
  if v.isRecord then
    match v.unfolded? with
    | some (.dict es) => do
      let es ← reportedEntries es
      return .dict es
    | _ => .error .wrongType
  else v.reported

theorem Value.logged_of_isReportable {v : Value} (single : v.isRecord = false) (shown : v.isReportable = true) :
    v.logged = .ok v := by
  simp only [logged, single, reported, reported?, if_pos shown, Bool.false_eq_true, if_false]

/-- Fields with their values as a log line shows them. -/
def Fields.logged (fs : Fields) : Except Fault Fields :=
  fs.mapM fun (name, v) => do
    let w ← v.logged
    return (name, w)

/-- The bound fields, and what the open scopes will restore, the innermost first. -/
structure LogContext where
  fields : Fields
  scopes : List Fields

namespace LogContext

def empty : LogContext := ⟨[], []⟩

/-- Binds fields, each with its value as a log line shows it. -/
def bind (c : LogContext) (fs : Fields) : Except Fault LogContext := do
  let fs ← fs.logged
  return { c with fields := c.fields.merge fs }

def unbind (c : LogContext) (names : List String) : LogContext :=
  { c with fields := names.foldl Fields.unset c.fields }

def clear (c : LogContext) : LogContext := { c with fields := [] }

/-- The name under which a scope binds its identifier. -/
def traceName : String := "trace_id"

/-- Opens a scope under an identifier, or under a made-up one where none is given or an empty
one. -/
def enter (c : LogContext) (id : Value) (fresh : String) : Except Fault LogContext := do
  let opened : LogContext := { c with scopes := c.fields :: c.scopes }
  let given ← id.truth
  opened.bind [(traceName, if given then id else .text fresh)]

def exit (c : LogContext) : LogContext :=
  match c.scopes with
  | [] => c
  | found :: outer => ⟨found, outer⟩

end LogContext

namespace TraceId

def byteCount : Nat := 6

def ofBytes (bs : List UInt8) : String := Hex.text (bs.take byteCount)

/-- Whether a text has the form of an identifier: twelve hexadecimal digits in lower case. -/
def isWellFormed (s : String) : Bool :=
  s.length == 2 * byteCount &&
    s.toList.all fun c => c.isDigit || ('a' ≤ c && c ≤ 'f')

end TraceId
end AccountInput
