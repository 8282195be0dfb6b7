import AccountInput.Text.Case

namespace AccountInput
namespace Path

/-- The parts of a text between slashes, without empty ones. -/
def parts (s : String) : List String :=
  (s.toList.splitOn '/').filterMap fun p => if p.isEmpty then none else some (String.ofList p)

/-- One more part: a point stays, two points go up. -/
def step (path : List String) (part : String) : List String :=
  if part == "." then path
  else if part == ".." then path.dropLast
  else path ++ [part]

/-- The parts of a path from the root on, where the first part may be a home directory: a tilde,
and the name of a user. There are none where that user has no home. -/
def expanded? (home : String → Option String) (directory s : String) : Option (List String) :=
  if s.startsWith "/" then some (parts s)
  else
    match (parts s).dropWhile (· == ".") with
    | [] => some (parts directory)
    | first :: rest =>
      match first.toList with
      | '~' :: user => (home (String.ofList user)).map fun h => parts h ++ rest
      | _ => some (parts directory ++ first :: rest)

/-- A path without points and without steps up. -/
def resolve? (home : String → Option String) (directory s : String) : Option (List String) :=
  (expanded? home directory s).map fun ps => ps.foldl step []

def text (path : List String) : String := "/" ++ "/".intercalate path

/-- The end of a name from its last point on; none where nothing stands before or after that
point. -/
def suffixOf (name : List Char) : List Char :=
  let after := name.reverse.takeWhile (· ≠ '.')
  let before := (name.reverse.dropWhile (· ≠ '.')).drop 1
  if after.isEmpty || before.isEmpty then [] else '.' :: after.reverse

def suffix (path : List String) : String :=
  Text.lower (String.ofList (suffixOf ((path.getLast?.map String.toList).getD [])))

end Path
end AccountInput
