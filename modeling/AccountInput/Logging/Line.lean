import AccountInput.Json.Writer
import AccountInput.Logging.Level
import AccountInput.Logging.Record

namespace AccountInput

namespace LogRecord

/-- The fields of a JSON line: those of the record, those of the context over them, and the extra
ones where neither has the name. -/
def jsonFields (r : LogRecord) (context extra : Fields) (clock message : String) : Fields :=
  let own : Fields :=
    [("ts", .text clock), ("level", .text (Level.name r.level)), ("logger", .text r.logger),
      ("msg", .text message)]
  let all := (own.merge context).mergeDefaults extra
  match r.failure with
  | none => all
  | some report => all.set "err" (.text (Text.stripEnd report))

/-- A field of a JSON line. The message of the record stands there code point by code point, since
it may hold what no text holds. -/
def jsonPart? (context : Fields) (message : List CodePoint) (f : String × Value) : Option String :=
  let value? :=
    if f.1 = "msg" ∧ !context.contains "msg" then some (Json.quotePoints message)
    else Json.write? f.2
  value?.map fun t => Json.quote f.1 ++ ":" ++ t

/-- The JSON line of a record. -/
def jsonLine? (r : LogRecord) (context : Fields) (clock : String) : Option String := do
  let message ← r.text?
  let extra ← r.shownExtra.toOption
  let parts ← (r.jsonFields context extra clock (CodePoint.written message)).mapM
    (jsonPart? context message)
  return Json.bracketed "\x7b" "\x7d" parts

/-- The names of the context that a text line shows. -/
def contextNames : List String := ["trace_id", "component", "account", "wire_version"]

def shownParts? (fs : Fields) : Option (List String) :=
  fs.mapM fun (name, v) => v.str?.map fun t => name ++ "=" ++ t

/-- The fields of the context that a text line shows. -/
def contextParts (context : Fields) : Fields :=
  contextNames.filterMap fun name =>
    match context.get? name with
    | none | some .null => none
    | some v => some (name, v)

def colour (level : Int) : String :=
  if level = 10 then "\x1b[90m"
  else if level = 20 then "\x1b[32m"
  else if level = 30 then "\x1b[33m"
  else if level = 40 then "\x1b[31m"
  else if level = 50 then "\x1b[1m\x1b[35m"
  else ""

def endOfColour : String := "\x1b[0m"

/-- The name of a level in a text line, five characters wide at least. -/
def levelColumn (level : Int) (coloured : Bool) : String :=
  let name := Level.name level
  let column := name ++ String.ofList (List.replicate (5 - name.length) ' ')
  if coloured then colour level ++ column ++ endOfColour else column

/-- The text line of a record. Fields of the context hide extra ones of their name. -/
def textLine? (r : LogRecord) (context : Fields) (coloured : Bool) (clock : String) :
    Option String := do
  let ofContext ← shownParts? (contextParts context)
  let extra ← r.shownExtra.toOption
  let ofExtra ← shownParts? (extra.filter fun f => !context.contains f.1)
  let parts := ofContext ++ ofExtra
  let message ← r.text?.map CodePoint.written
  let head := clock ++ " | " ++ levelColumn r.level coloured ++ " | " ++ r.logger
  let shown := if parts.isEmpty then "" else " | " ++ " ".intercalate parts
  let failure :=
    match r.failure with
    | none => ""
    | some report => "\n" ++ Text.stripEnd report
  return head ++ shown ++ " | " ++ message ++ failure

def line? (r : LogRecord) (form : LineForm) (context : Fields) (clock : String) :
    Option String :=
  match form with
  | .json => r.jsonLine? context clock
  | .text coloured => r.textLine? context coloured clock

/-- The line of a record that no handler took: its message alone, and the failure. -/
def bareLine? (r : LogRecord) : Option String := do
  let message ← r.text?.map CodePoint.written
  return match r.failure with
    | none => message
    | some report => (if message.endsWith "\n" then message else message ++ "\n") ++ report

end LogRecord

end AccountInput
