import AccountInput.Fault
import AccountInput.Fields

namespace AccountInput

namespace ProblemKind

def typeName : ProblemKind → String
  | .general => "LedgerError"
  | .internal => "InternalError"
  | .config => "ConfigError"
  | .deserialization => "DeserializationError"
  | .graphqlParse => "GraphQLParseError"
  | .wireFormat => "WireFormatError"

def all : List ProblemKind :=
  [.general, .internal, .config, .deserialization, .graphqlParse, .wireFormat]

def ofTypeName? (s : String) : Option ProblemKind := all.find? (·.typeName == s)

/-- The code of the problems of a kind; the general kind has none of its own. -/
def code : ProblemKind → ProblemCode
  | .general | .internal => .internal
  | .config => .config
  | .deserialization => .deserialization
  | .graphqlParse => .graphqlParse
  | .wireFormat => .wireFormat

/-- What a problem says where no message is given. -/
def defaultMessage : ProblemKind → String
  | .general | .internal => "internal error"
  | .config => "invalid configuration"
  | .deserialization => "deserialization failed"
  | .graphqlParse => "graphql document parse failed"
  | .wireFormat => "malformed wire record"

end ProblemKind

namespace Problem

def checked (p : Problem) : Except Fault Problem := do
  let _ ← headline p.code p.message
  return p

/-- The value of a parameter: the argument at its place, or the one under its name. -/
def parameter (args : List Value) (named : Fields) (place : Nat) (name : String) :
    Except Fault (Option Value) :=
  match args[place]?, named.get? name with
  | some _, some _ => .error .wrongType
  | some v, none => .ok (some v)
  | none, v => .ok v

def generalParameters : List String := ["code", "message", "data", "cause"]

/-- What a value says of a cause; null says that there is none. -/
def causeOfValue : Value → Option (Cause Problem)
  | .null => none
  | v => some (.value v)

def ofGeneral (args : List Value) (named : Fields) : Except Fault Problem := do
  if args.length > 4 || named.any fun f => !generalParameters.contains f.1 then
    throw .wrongType
  let code ← parameter args named 0 "code"
  let message ← parameter args named 1 "message"
  let data ← parameter args named 2 "data"
  let cause ← parameter args named 3 "cause"
  match code, message with
  | some code, some message =>
    checked ⟨.general, code, message, data.getD Value.emptyDict,
      causeOfValue (cause.getD .null)⟩
  | _, _ => throw .wrongType

/-- A name that no data can have, since it means the problem itself. -/
def selfName : String := "self"

/-- The code of a problem and its data, out of what was given under names. Only the kind of all
problems with reading may be given a code. -/
def codeAndData (kind : ProblemKind) (named : Fields) : Except Fault (Value × Fields) :=
  match kind with
  | .deserialization =>
    .ok ((named.get? "code").getD (.code kind.code), named.unset "code")
  | .graphqlParse =>
    if named.contains "code" then .error .wrongType
    else
      .ok (.code kind.code,
        ("field", (named.get? "field").getD .null) :: named.unset "field")
  | .wireFormat =>
    if named.contains "code" then .error .wrongType else .ok (.code kind.code, named)
  | _ => .ok (.code kind.code, named)

/-- A problem of a kind with a message, which may be left out, and data. -/
def ofMessage (kind : ProblemKind) (args : List Value) (named : Fields) :
    Except Fault Problem := do
  if args.length > 1 || named.contains selfName then throw .wrongType
  let message ← parameter args named 0 "message"
  let (code, data) ← codeAndData kind (named.unset "message")
  let es ← Value.reportedEntries data.entries
  checked ⟨kind, code, message.getD (.text kind.defaultMessage), .dict es, none⟩

/-- A problem of a kind, of arguments in order and under names. -/
def ofArguments (kind : ProblemKind) (args : List Value) (named : Fields) :
    Except Fault Problem :=
  match kind with
  | .general => ofGeneral args named
  | kind => ofMessage kind args named

/-- A copy with more data, which wins over what is there. -/
def withContext (p : Problem) (more : Fields) : Except Fault Problem :=
  match p.data.entries? with
  | none => .error .wrongType
  | some es => do
    if more.contains selfName then throw .wrongType
    let shown ← Value.reportedEntries more.entries
    return { p with data := .dict (Value.merge es shown) }

def withCause (p : Problem) (cause : Option (Cause Problem)) : Problem := { p with cause }

end Problem
end AccountInput
