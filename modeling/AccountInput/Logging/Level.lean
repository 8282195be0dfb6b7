import AccountInput.Fault
import AccountInput.Text.Blank
import AccountInput.Text.Case

namespace AccountInput

/-- A level. The truth values are the levels zero and one, and keep their spelling. -/
inductive Level where
  | number (n : Int)
  | truth (b : Bool)
deriving DecidableEq

namespace Level

def toInt : Level → Int
  | .number n => n
  | .truth b => b.toNat

def toValue : Level → Value
  | .number n => .int n
  | .truth b => .bool b

def names : List (String × Int) :=
  [("CRITICAL", 50), ("ERROR", 40), ("WARNING", 30), ("INFO", 20), ("DEBUG", 10), ("NOTSET", 0)]

/-- The level at which there is no other reason to choose one. -/
def info : Level := .number 20

/-- The level of a root that nobody has configured. -/
def rootLevel : Int := 30

/-- The level of a name in any case, with blanks around it; an unknown name is `INFO`. -/
def ofName (s : String) : Level :=
  match names.find? (·.1 == Text.capitals (Text.strip s)) with
  | some (_, n) => .number n
  | none => info

def ofValue : Value → Except Fault Level
  | .int n => .ok (.number n)
  | .bool b => .ok (.truth b)
  | .text s => .ok (ofName s)
  | .code c => .ok (ofName c.text)
  | .bytes .fixed _ => .ok info
  | .bytes .growable _ => .error .wrongType
  | _ => .error .noAttribute

def name (n : Int) : String :=
  match names.find? (·.2 == n) with
  | some (name, _) => name
  | none => "Level " ++ toString n

end Level

end AccountInput
