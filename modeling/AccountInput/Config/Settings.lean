import AccountInput.Logging.Handler

namespace AccountInput

/-- The settings. They are loose values until they are validated. -/
structure Settings where
  logLevel : Value
  logJson : Value
  wireVersion : Value

namespace Settings

def default : Settings := ⟨.text "INFO", .null, .int 1⟩

def levelName : String := "log_level"
def jsonName : String := "log_json"
def versionName : String := "wire_version"

def names : List String := [levelName, jsonName, versionName]

/-- The settings with one of them changed; none for a name that is none of theirs. -/
def set? (s : Settings) (name : String) (v : Value) : Option Settings :=
  if name == levelName then some { s with logLevel := v }
  else if name == jsonName then some { s with logJson := v }
  else if name == versionName then some { s with wireVersion := v }
  else none

def toValue (s : Settings) : Value := .settings s.logLevel s.logJson s.wireVersion

def fields (s : Settings) : Fields :=
  [(levelName, s.logLevel), (jsonName, s.logJson), (versionName, s.wireVersion)]

/-- The capitals of the text of a log level. -/
def levelCapitals (s : Settings) : Except Fault String :=
  s.logLevel.str.map Text.capitals

/-- Whether a value is a wire version: a number equal to zero or one, and no truth value. -/
def isWireVersion : Value → Bool
  | .bool _ => false
  | v => v.equal (.int 0) || v.equal (.int 1)

def isTruthOrNull : Value → Bool
  | .null | .bool _ => true
  | _ => false

/-- The rules, in the order of the settings. -/
def validate (s : Settings) : Except Fault Unit := do
  let level ← s.levelCapitals
  if (Level.names.map (·.1)).contains level then
    if isTruthOrNull s.logJson then
      if isWireVersion s.wireVersion then return ()
      else
        throw (Problem.config "wire_version must be one of (0, 1)"
          [(versionName, s.wireVersion)])
    else throw (Problem.config "log_json must be a bool or null" [(jsonName, s.logJson)])
  else
    let shown ← s.logLevel.repr
    throw (Problem.config ("unknown log level " ++ shown) [(levelName, s.logLevel)])

end Settings
end AccountInput
