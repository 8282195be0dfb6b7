import AccountInput.Config.Load

namespace AccountInput
namespace Config

/-- What a run of the command leaves. -/
structure Outcome where
  code : Nat
  output : String
  errors : String

/-- The settings as JSON on several lines, in the order of their names. -/
def printed? (s : Settings) : Option String := do
  let j ← Json.write? s.logJson
  let l ← Json.write? s.logLevel
  let v ← Json.write? s.wireVersion
  return "\x7b\n  \"log_json\": " ++ j ++ ",\n  \"log_level\": " ++ l ++
    ",\n  \"wire_version\": " ++ v ++ "\n\x7d"

def loadedRecord (s : Settings) : LogRecord where
  logger := "ledger.config"
  level := 10
  message := .text "effective configuration loaded"
  args := []
  extra := [(Settings.levelName, s.logLevel)]
  failure := none

/-- What is logged about a load, by the settings themselves. -/
def loadedLines (w : Surroundings) (s : Settings) (terminal : Terminal) (clock : String) :
    Except Fault String := do
  let logging ← (Logging.start.configureFrom w.env terminal s.toValue).1
  let lines ← logging.log (loadedRecord s) clock
  return String.join (lines.map (·.2))

/-- A run of the command with the path of a file, or null. The terminal is that of the error
output. -/
def run (w : Surroundings) (given : Value) (terminal : Terminal) (clock : String) :
    Except Fault Outcome :=
  match load w given [] with
  | .ok s => do
    let errors ← loadedLines w s terminal clock
    match printed? s with
    | some t => return ⟨0, t ++ "\n", errors⟩
    | none => throw .tooManyDigits
  | .error (.problem p chained) =>
    if p.kind = .config then do
      let t ← p.text
      return ⟨2, "", "config error: " ++ t ++ "\n"⟩
    else .error (.problem p chained)
  | .error f => .error f

end Config
end AccountInput
