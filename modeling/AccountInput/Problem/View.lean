import AccountInput.Problem.Arguments

namespace AccountInput
namespace Problem

/-- The data of a problem as a dictionary shows it. -/
def dataView (p : Problem) : Except Fault Value :=
  match p.data.entries? with
  | none => .error .noAttribute
  | some es => do
    let es ← Value.reportedEntries es
    return .dict es

def fieldsView (p : Problem) : Except Fault Fields := do
  let code ← codeText p.code
  let data ← p.dataView
  return [("code", .text code), ("message", p.message), ("data", data)]

/-- A problem as a dictionary, without its cause. -/
def toDict (p : Problem) : Except Fault Value := do
  let fs ← p.fieldsView
  return .dict fs.entries

/-- The type of a cause and what it says. -/
def causeView : Cause Problem → Except Fault Fields
  | .problem p => do
    let t ← p.text
    return [("type", .text p.kind.typeName), ("message", .text t)]
  | .failure f =>
    match f.message? with
    | some m => .ok [("type", .text f.name), ("message", .text m)]
    | none => .error .tooManyDigits
  | .value v => do
    let t ← v.str
    return [("type", .text v.typeName), ("message", .text t)]

/-- A problem as a dictionary, with its cause if it has one. -/
def toFullDict (p : Problem) : Except Fault Value := do
  let fs ← p.fieldsView
  match p.cause with
  | none => return .dict fs.entries
  | some c =>
    let shown ← causeView c
    return .dict (fs.entries ++ Fields.entries [("cause", .dict (Fields.entries shown))])

/-- The text of a problem as a record of its parts. -/
def repr (p : Problem) : Except Fault String := do
  let c ← p.code.repr
  let m ← p.message.repr
  let d ← p.data.repr
  return Value.call p.kind.typeName [("code", c), ("message", m), ("data", d)]

/-- The field of a document that a problem with it names. -/
def field (p : Problem) : Except Fault Value :=
  match p.kind, p.data.entries? with
  | .graphqlParse, some es => .ok ((Value.get? es "field").getD .null)
  | .graphqlParse, none => .error .noAttribute
  | _, _ => .ok .null

end Problem
end AccountInput
