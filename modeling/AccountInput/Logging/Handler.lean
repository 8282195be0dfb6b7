import AccountInput.Version
import AccountInput.Logging.Context
import AccountInput.Logging.Hierarchy
import AccountInput.Logging.Line
import AccountInput.Text.Case

namespace AccountInput

/-- Where a handler writes. -/
inductive LogTarget where
  | standardError
  | stream (n : Nat)
deriving DecidableEq

/-- A handler. -/
structure Handler where
  form : LineForm
  level : Int
  target : LogTarget
deriving DecidableEq

/-- What a stream answers when asked whether it is a terminal. -/
inductive Terminal where
  | yes
  | no
  | fails
deriving DecidableEq

/-- The state of logging. -/
structure Logging where
  context : LogContext
  level : Level
  handlers : List Handler
  /-- The names of the loggers, other than the library's, that were asked for. -/
  loggers : List String := []

/-- A request for a new handler. -/
structure HandlerRequest where
  /-- Whether lines are JSON; null leaves it to the surroundings. -/
  json : Value
  level : Value
  target : LogTarget
  terminal : Terminal
  /-- Whether the handlers that are there stay. -/
  keep : Bool

namespace Logging

def start : Logging := { context := .empty, level := .number 0, handlers := [] }

def supportsColour (env : Env) (t : Terminal) : Bool :=
  t == .yes && (env.get? "NO_COLOR").isNone

/-- Whether lines are JSON: as the request says, else as the environment says, else unless a
person reads them. -/
def isJson (env : Env) (r : HandlerRequest) : Bool :=
  match r.json with
  | .null =>
    let format := Text.lower (Text.strip ((env.get? "LEDGER_LOG_FORMAT").getD ""))
    if format == "json" then true
    else if format == "text" then false
    else !supportsColour env r.terminal
  | v => v.isTruthy

def formOf (env : Env) (r : HandlerRequest) : LineForm :=
  if isJson env r then .json else .text (supportsColour env r.terminal)

/-- Adds a handler, by default in place of all others. A level that is none changes nothing. -/
def configure (s : Logging) (env : Env) (r : HandlerRequest) : Except Fault Logging := do
  let level ← Level.ofValue r.level
  let handler : Handler := ⟨formOf env r, level.toInt, r.target⟩
  return { s with level, handlers := (if r.keep then s.handlers else []) ++ [handler] }

/-- The part of a value with a given name, or what stands for it where there is none. A part that
fails still fails. -/
def settingOr (v : Value) (name : String) (missing : Value) : Except Fault Value :=
  match v.part name with
  | .error (.incidental .noAttribute _) => .ok missing
  | part => part

def bindVersion (s : Logging) (settings : Value) : Except Fault LogContext := do
  let version ← settingOr settings "wire_version" .null
  s.context.bind [("wire_version", version)]

/-- Configures logging as settings say, on the error output, which may be a terminal. -/
def configureAs (s : Logging) (env : Env) (terminal : Terminal) (settings : Value) :
    Except Fault Logging := do
  let json ← settingOr settings "log_json" .null
  let level ← settingOr settings "log_level" (.text "INFO")
  s.configure env ⟨json, level, .standardError, terminal, false⟩

/-- Configures logging as settings say and binds the wire version, which stays bound where the rest
fails. -/
def configureFrom (s : Logging) (env : Env) (terminal : Terminal) (settings : Value) :
    Except Fault Logging × Logging :=
  match s.bindVersion settings with
  | .error f => (.error f, s)
  | .ok context =>
    let s := { s with context }
    match s.configureAs env terminal settings with
    | .error f => (.error f, s)
    | .ok s => (.ok s, s)

/-- Asks for a logger, which is there from then on. -/
def getLogger (s : Logging) (name : String) : Logging :=
  { s with loggers := loggerName name :: s.loggers }

/-- The level that a logger goes by: that of the library, unless it is zero. -/
def effectiveLevel (s : Logging) (name : String) : Int :=
  if isOwn s.loggers name ∧ s.level.toInt ≠ 0 then s.level.toInt else Level.rootLevel

/-- Whether a logger looks at records of a level. -/
def isEnabled (s : Logging) (name : String) (level : Int) : Bool :=
  0 < level && s.effectiveLevel name ≤ level

/-- The handlers that a logger reaches. -/
def handlersOf (s : Logging) (name : String) : List Handler :=
  if isOwn s.loggers name then s.handlers else []

/-- What is written of a record where its line should go, or on the error output where it has no
line. -/
def writtenTo (target : LogTarget) (line : Option String) (report : String) : LogTarget × String :=
  match line with
  | some t => (target, t ++ "\n")
  | none => (.standardError, report)

/-- What is written of a record that its logger looked at, and where. Where there is no handler, the
message alone goes to the error output. -/
def lines (s : Logging) (r : LogRecord) (clock : String) : List (LogTarget × String) :=
  match s.handlersOf r.logger with
  | [] =>
    if Level.rootLevel ≤ r.level then [writtenTo .standardError r.bareLine? (r.lossReport none)]
    else []
  | hs =>
    (hs.filter (·.level ≤ r.level)).map fun h =>
      writtenTo h.target (r.line? h.form s.context.fields clock) (r.lossReport (some h.form))

/-- What keeps a record from being made: a level with too many digits for its name, or an extra
field with a name of the record's own. -/
def refusal? (r : LogRecord) : Option Fault :=
  if (Decimal.text? r.level).isNone then some .tooManyDigits
  else if r.extra.any fun f => LogRecord.refusedNames.contains f.1 then
    some (.incidental .noKey "")
  else none

/-- Logs a record, if its logger looks at it at all. A record that cannot be made is refused. -/
def log (s : Logging) (r : LogRecord) (clock : String) :
    Except Fault (List (LogTarget × String)) :=
  if s.isEnabled r.logger r.level then
    match refusal? r with
    | some f => .error f
    | none => .ok (s.lines r clock)
  else .ok []

/-- A name that no constant field can have, since it means the logger itself. -/
def loggerField : String := "logger"

/-- The extra fields of a record logged with constant ones. -/
def withFields (fields extra : Fields) : Except Fault Fields := do
  if fields.contains loggerField then throw .wrongType
  let fields ← fields.logged
  return fields.merge extra

end Logging

end AccountInput
