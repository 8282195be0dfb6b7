import AccountInput.Toml.Value

namespace AccountInput
namespace Toml

/-- A document under construction. What dotted keys opened is declared only once a header
follows. -/
structure State where
  entries : Entries
  marks : Marks
  opened : List (List String)
  header : List String

def State.start : State := ⟨[], [], [], []⟩

/-- The state at a header: what dotted keys opened counts as declared. -/
def State.settle (s : State) : State :=
  { s with marks := s.opened.map (·, Mark.declared) ++ s.marks, opened := [] }

/-- The paths of the tables that a dotted key leads through. -/
def through (header path : List String) : List (List String) :=
  (List.range (path.length - 1)).map fun i => header ++ path.take (i + 1)

def State.add? (s : State) (path : List String) (v : Value) : Option State := do
  let key ← path.getLast?
  let tables := through s.header path
  let parent := s.header ++ path.dropLast
  if tables.any s.marks.isDeclared || s.marks.isClosed parent then none
  let entries ← updateAt? true (addNew? key v) parent s.entries
  let marks := if isContainer v then (s.header ++ path, Mark.closed) :: s.marks else s.marks
  return { s with entries, marks, opened := tables ++ s.opened }

def State.openTable? (s : State) (path : List String) : Option State := do
  if s.marks.isDeclared path || s.marks.isClosed path then none
  let entries ← updateAt? true some path s.entries
  return { s with entries, marks := (path, .declared) :: s.marks, header := path }

/-- The header of one more table of an array. What was declared below the array is so for another
table of it, and forgotten. -/
def State.openArray? (s : State) (path : List String) : Option State := do
  if s.marks.isClosed path then none
  let key ← path.getLast?
  let entries ← updateAt? true (addToArray? key) path.dropLast s.entries
  return { s with entries, marks := (path, .declared) :: s.marks.release path, header := path }

/-- A header between double brackets, after them, and what follows it. -/
def readArrayHeader (fuel : Nat) (s : State) (cs : List Char) :
    Except ReadError (State × List Char) := do
  let (path, rest) ← orMalformed (key? fuel (skipBlanks cs))
  let s ← orMalformed (s.openArray? path)
  match rest with
  | ']' :: ']' :: rest => return (s, skipBlanks rest)
  | _ => throw .malformed

/-- A header between brackets, after the first. -/
def readTableHeader (fuel : Nat) (s : State) (cs : List Char) :
    Except ReadError (State × List Char) := do
  let (path, rest) ← orMalformed (key? fuel (skipBlanks cs))
  let s ← orMalformed (s.openTable? path)
  match rest with
  | ']' :: rest => return (s, skipBlanks rest)
  | _ => throw .malformed

/-- The calls within each other that are left to the reader of an entry. -/
def entryRoom : Nat := 988

/-- A statement, and what follows it on its line. -/
def readStatement (fuel : Nat) (s : State) (cs : List Char) :
    Except ReadError (State × List Char) :=
  match cs with
  | [] | '\n' :: _ | '#' :: _ => .ok (s, cs)
  | '[' :: '[' :: rest => readArrayHeader fuel s.settle rest
  | '[' :: rest => readTableHeader fuel s.settle rest
  | c :: _ =>
    if startsKey c then do
      let (path, v, rest) ← readPair fuel entryRoom cs
      let s ← orMalformed (s.add? path v)
      return (s, skipBlanks rest)
    else .error .malformed

/-- The lines of a document. A statement may take several. -/
def readLines : (fuel : Nat) → State → List Char → Except ReadError State
  | 0, s, _ => .ok s
  | fuel + 1, s, cs => do
    let (s, rest) ← readStatement (4 * cs.length + 4) s (skipBlanks cs)
    match ← orMalformed (skipComment? rest) with
    | [] => return s
    | '\n' :: rest => readLines fuel s rest
    | _ => throw .malformed

def joinLineEnds : List Char → List Char
  | '\r' :: '\n' :: cs => '\n' :: joinLineEnds cs
  | c :: cs => c :: joinLineEnds cs
  | [] => []

/-- The table that a text spells. Every line ends in a character of its own, so there are no more
lines than characters and one. -/
def read (cs : List Char) : Except ReadError Entries :=
  let cs := joinLineEnds cs
  (readLines (cs.length + 1) .start cs).map (·.entries)

end Toml
end AccountInput
