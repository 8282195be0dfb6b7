import AccountInput.Text.Blank

namespace AccountInput

/-- The variables of the environment. -/
abbrev Env := List (String × String)

def Env.get? (env : Env) (name : String) : Option String :=
  (env.find? (·.1 == name)).map (·.2)

namespace Version

def own : String := "0.1.0"

def variableName : String := "LEDGER_VERSION"

/-- The version that the environment names, without blanks around it, or else this library's. An
empty variable names none. -/
def resolve (env : Env) : String :=
  match env.get? variableName with
  | none | some "" => own
  | some s => Text.strip s

end Version
end AccountInput
