import AccountInput.Problem.View

namespace AccountInput

namespace Value

/-- Whether JSON has a key of a dictionary as it is, where `whole` says which integers it has. -/
def isJsonKey (whole : Int → Bool) : Value → Bool
  | .null | .bool _ | .float _ | .text _ | .code _ => true
  | .int n => whole n
  | _ => false

mutual

/-- Whether a value consists at every depth of what JSON has: null, truth values, integers as `whole` says,
floats, texts, lists and tuples, and dictionaries under keys of the simple types. -/
def isJson (whole : Int → Bool) : Value → Bool
  | .null | .bool _ | .float _ | .text _ | .code _ => true
  | .int n => whole n
  | .list vs | .tuple vs => areJson whole vs
  | .dict es => haveJson whole es
  | _ => false

def areJson (whole : Int → Bool) : List Value → Bool
  | [] => true
  | v :: vs => isJson whole v && areJson whole vs

def haveJson (whole : Int → Bool) : List (Value × Value) → Bool
  | [] => true
  | (k, v) :: es => isJsonKey whole k && isJson whole v && haveJson whole es

end

end Value

namespace Problem

/-- What is added to a problem that is there already. -/
inductive Addition where
  | context (more : Fields)
  | cause (c : Cause Problem)

def add (p : Problem) : Addition → Except Fault Problem
  | .context more => p.withContext more
  | .cause c => .ok (p.withCause (some c))

/-- The data that a problem of a kind is given under names: all of them but those of its other parameters. -/
def givenData (kind : ProblemKind) (named : Fields) : Fields :=
  match codeAndData kind (named.unset "message") with
  | .ok (_, data) => data
  | .error _ => []

def grown (data : Fields) : Addition → Fields
  | .context more => data.merge more
  | .cause _ => data

end Problem
end AccountInput
