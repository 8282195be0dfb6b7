import AccountInput.Value.Coerce
import AccountInput.Value.Text

namespace AccountInput

/-- A failure known by the name of its type and its arguments. -/
structure Failure where
  name : String
  args : List Value

namespace Failure

/-- The message of a failure: its one argument, or all of them as a tuple. The argument of a
missing key is shown as it stands inside a text. -/
def message? (f : Failure) : Option String :=
  match f.args with
  | [] => some ""
  | [v] => if f.name == "KeyError" then v.repr? else v.str?
  | vs => (Value.tuple vs).repr?

def line (f : Failure) : String :=
  match f.message? with
  | some "" => f.name
  | some m => f.name ++ ": " ++ m
  | none => f.name ++ ": <exception str() failed>"

/-- The report of a failure after that of its cause. -/
def report (f : Failure) (cause : Option Failure) : String :=
  match cause with
  | none => f.line
  | some c =>
    c.line ++ "\n\nThe above exception was the direct cause of the following exception:\n\n" ++
      f.line

end Failure

/-- The families of problems, by what was being done. -/
inductive ProblemKind where
  | general
  | internal
  | config
  | deserialization
  | graphqlParse
  | wireFormat
deriving DecidableEq

/-- What a problem of type `P` was caused by. -/
inductive Cause (P : Type) where
  | problem (p : P)
  | failure (f : Failure)
  | value (v : Value)

/-- A problem report. -/
structure Problem where
  kind : ProblemKind
  code : Value
  message : Value
  data : Value
  cause : Option (Cause Problem)

/-- A failure of an operation. -/
inductive Fault where
  /-- A problem, and whether it arose from another fault. -/
  | problem (p : Problem) (chained : Bool)
  /-- A fault that the library states in words of its own. -/
  | stated (kind : FaultKind) (message : String)
  /-- A fault of an operation on values; its words matter only where a problem quotes them. -/
  | incidental (kind : FaultKind) (message : String)

namespace Fault

/-- An operation met a value of a type it does not take. -/
def wrongType : Fault := .incidental .wrongType ""

def badValue : Fault := .incidental .badValue ""

def noAttribute : Fault := .incidental .noAttribute ""

/-- An integer has too many digits to be written. -/
def tooManyDigits : Fault := .incidental .badValue Decimal.limitMessage

/-- A fault met while the library words a fault of its own is one that it states. -/
def stating : Fault → Fault
  | .incidental kind message => .stated kind message
  | f => f

end Fault

/-- Whether a value counts as true. -/
def Value.truth (v : Value) : Except Fault Bool :=
  match v with
  | .extended (.object ⟨_, _, _, .error k, _⟩) => .error (.incidental k "")
  | v => .ok v.isTruthy

/-- The text of a value inside another, for a message. -/
def Value.repr (v : Value) : Except Fault String :=
  match v.repr? with
  | some t => .ok t
  | none => .error .tooManyDigits

/-- The text of a value on its own, for a message. -/
def Value.str (v : Value) : Except Fault String :=
  match v.str? with
  | some t => .ok t
  | none => .error .tooManyDigits

/-- The text of a value inside another, for the words of a fault that is being stated. -/
def Value.statedRepr (v : Value) : Except Fault String := v.repr.mapError Fault.stating

/-- The text of a value on its own, for the words of a fault that is being stated. -/
def Value.statedStr (v : Value) : Except Fault String := v.str.mapError Fault.stating

/-- The attribute of a value with a given name, unless it is missing or fails. -/
def Value.part (v : Value) (name : String) : Except Fault Value :=
  match v.attribute? name with
  | some (.holds w) => .ok w
  | some (.raises reason) => .error (.incidental reason "")
  | none => .error .noAttribute

def Value.reported (v : Value) : Except Fault Value :=
  match v.reported? with
  | some w => .ok w
  | none => .error .tooManyDigits

def Value.reportedEntries (es : List (Value × Value)) : Except Fault (List (Value × Value)) :=
  es.mapM fun (k, v) => do
    let w ← v.reported
    return (k, w)

namespace Problem

def isDeserialization (p : Problem) : Bool :=
  match p.kind with
  | .deserialization | .graphqlParse | .wireFormat => true
  | _ => false

/-- The text of a code: that of the library's own, or of whatever stands in its place. -/
def codeText (code : Value) : Except Fault String :=
  match code with
  | .code c => .ok c.text
  | v => v.str

def headline (code message : Value) : Except Fault String := do
  let c ← codeText code
  let m ← message.str
  return c ++ ": " ++ m

/-- The most characters that a preview shows. -/
def previewLimit : Nat := 96

def cut (s : String) : String :=
  if s.length ≤ previewLimit then s
  else String.ofList (s.toList.take previewLimit) ++ "…"

def preview (v : Value) : Except Fault String := do
  let w ← v.reported
  let t ← w.str
  return cut t

def previews (es : List (Value × Value)) : Except Fault String := do
  let ts ← es.mapM fun (k, v) => do
    let name ← k.str
    let t ← preview v
    return name ++ "=" ++ t
  return "[" ++ ", ".intercalate ts ++ "]"

def text (p : Problem) : Except Fault String := do
  let head ← headline p.code p.message
  if !p.data.isTruthy then return head
  else
    match p.data.entries? with
    | some es =>
      let shown ← previews es
      return head ++ " " ++ shown
    | none => .error .noAttribute

/-- The line that reports a problem, or its code where the data cannot be written. -/
def line (p : Problem) : String :=
  match p.text with
  | .ok t => t
  | .error _ => ((codeText p.code).toOption).getD ""

/-- The problem of a kind with texts under the names of its data. -/
def make (kind : ProblemKind) (code : ProblemCode) (message : Value)
    (data : List (String × Value)) : Except Fault Problem := do
  let es ← Value.reportedEntries (Value.ofFields data)
  let _ ← headline (.code code) message
  return { kind, code := .code code, message, data := .dict es, cause := none }

def fail (kind : ProblemKind) (code : ProblemCode) (message : String)
    (data : List (String × Value)) (chained : Bool) : Fault :=
  match make kind code (.text message) data with
  | .ok p => .problem p chained
  | .error f => f

def config (message : String) (data : List (String × Value)) : Fault :=
  fail .config .config message data false

def configFrom (message : String) (data : List (String × Value)) : Fault :=
  fail .config .config message data true

/-- A problem with a document; the field at fault is the first of its data. -/
def graphqlParse (message : String) (field : Value) (data : List (String × Value)) : Fault :=
  fail .graphqlParse .graphqlParse message (("field", field) :: data) false

/-- A problem with a document that arose from another fault. -/
def graphqlParseFrom (message : String) : Fault :=
  fail .graphqlParse .graphqlParse message [("field", .null)] true

def wireFormat (message : String) (data : List (String × Value)) : Fault :=
  fail .wireFormat .wireFormat message data false

/-- A problem with a wire record that arose from another fault. -/
def wireFormatFrom (message : String) (data : List (String × Value)) : Fault :=
  fail .wireFormat .wireFormat message data true

end Problem

/-- Whether a fault is a problem with a wire record. -/
def Fault.isWireFormat : Fault → Bool
  | .problem p _ => p.kind == .wireFormat
  | _ => false

def Fault.line : Fault → String
  | .problem p _ => p.line
  | .stated _ message => message
  | .incidental kind "" => kind.text
  | .incidental kind message => kind.text ++ ": " ++ message

end AccountInput
