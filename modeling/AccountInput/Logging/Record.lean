import AccountInput.Logging.Context
import AccountInput.Text.Blank
import AccountInput.Text.Template

namespace AccountInput

/-- The form of log lines. -/
inductive LineForm where
  | json
  | text (coloured : Bool)
deriving DecidableEq

/-- What the interpreter knows of its own run: how a record failed to be written in a form, bare if
in none, and which calls have logged it. -/
structure LogTrace where
  failure : Option LineForm → String
  calls : String

def LogTrace.empty : LogTrace := ⟨fun _ => "", ""⟩

/-- A log record. -/
structure LogRecord where
  logger : String
  level : Int
  message : Value
  args : List Value
  extra : Fields
  /-- The report of a failure, without the end of its last line. -/
  failure : Option String
  trace : LogTrace := .empty

namespace LogRecord

/-- The names that every record has of its own. -/
def ownNames : List String :=
  ["name", "msg", "args", "levelname", "levelno", "pathname", "filename", "module", "exc_info",
    "exc_text", "stack_info", "lineno", "funcName", "created", "msecs", "relativeCreated",
    "thread", "threadName", "processName", "process"]

/-- The names that an extra field may not have. -/
def refusedNames : List String := ["message", "asctime"] ++ ownNames

/-- The names of extra fields that no line shows. -/
def hiddenNames : List String := ["taskName"] ++ refusedNames

/-- Whether a line shows an extra field of a name. -/
def isShown (name : String) : Bool := !name.startsWith "_" && !hiddenNames.contains name

/-- The extra fields of a record as its line shows them. -/
def shownExtra (r : LogRecord) : Except Fault Fields :=
  Fields.logged (r.extra.filter fun f => isShown f.1)

/-- The text of the message with its arguments. -/
def text? (r : LogRecord) : Option (List CodePoint) := do
  let template ← r.message.str?
  Template.fill? template r.args

/-- The arguments as a record keeps them: a single dictionary that is not empty stands for itself. -/
def keptArgs (r : LogRecord) : Value :=
  match Template.Arguments.of r.args with
  | .named _ (some v) => v
  | _ => .tuple r.args

/-- The message and the arguments in the report of a record that could not be written. -/
def shownParts (r : LogRecord) : String :=
  match r.message.repr?, r.keptArgs.str? with
  | some message, some args => "Message: " ++ message ++ "\nArguments: " ++ args ++ "\n"
  | _, _ =>
    "Unable to print the message and arguments - possible formatting error.\n" ++
      "Use the traceback above to help find the error.\n"

/-- The report of a record that could not be written in a form. -/
def lossReport (r : LogRecord) (form : Option LineForm) : String :=
  "--- Logging error ---\n" ++ r.trace.failure form ++ "Call stack:\n" ++ r.trace.calls ++ r.shownParts

end LogRecord

end AccountInput
