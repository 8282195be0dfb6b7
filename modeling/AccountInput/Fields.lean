import AccountInput.Value.Equal

namespace AccountInput

/-- Names with values; each name stands once. -/
abbrev Fields := List (String × Value)

namespace Fields

def get? (fs : Fields) (name : String) : Option Value :=
  (fs.find? (·.1 == name)).map (·.2)

def contains (fs : Fields) (name : String) : Bool := fs.any (·.1 == name)

/-- Binds a name: one that is bound already keeps its place. -/
def set (fs : Fields) (name : String) (v : Value) : Fields :=
  match fs with
  | [] => [(name, v)]
  | (n, w) :: rest => if n == name then (n, v) :: rest else (n, w) :: set rest name v

@[simp] theorem set_nil (name : String) (v : Value) : set [] name v = [(name, v)] := rfl

@[simp] theorem set_cons (n : String) (w : Value) (fs : Fields) (name : String) (v : Value) :
    set ((n, w) :: fs) name v = if n == name then (n, v) :: fs else (n, w) :: set fs name v := rfl

/-- Binds a name that is not bound yet. -/
def setDefault (fs : Fields) (name : String) (v : Value) : Fields :=
  if fs.contains name then fs else fs ++ [(name, v)]

/-- The bindings of the second over those of the first. -/
def merge (fs others : Fields) : Fields := others.foldl (fun fs f => fs.set f.1 f.2) fs

/-- The bindings of the second where the first has none. -/
def mergeDefaults (fs others : Fields) : Fields :=
  others.foldl (fun fs f => fs.setDefault f.1 f.2) fs

def unset (fs : Fields) (name : String) : Fields := fs.filter fun f => f.1 != name

def entries (fs : Fields) : List (Value × Value) := Value.ofFields fs

end Fields

end AccountInput
