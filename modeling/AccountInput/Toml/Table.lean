import AccountInput.Value.Equal

namespace AccountInput
namespace Toml

abbrev Entries := List (Value × Value)

/-- A list with its last item changed; none for a list that does not end in a table. -/
def updateLast? (f : Entries → Option Entries) : List Value → Option (List Value)
  | [] => none
  | [.dict es] => (f es).map fun es => [.dict es]
  | [_] => none
  | v :: vs => (updateLast? f vs).map (v :: ·)

/-- A table with the table at a path changed. Missing tables are made; an array of tables stands
for its last one, where `intoArrays` allows it. -/
def updateAt? (intoArrays : Bool) (f : Entries → Option Entries) :
    List String → Entries → Option Entries
  | [], es => f es
  | k :: path, es =>
    match Value.get? es k with
    | none => (updateAt? intoArrays f path []).map fun t => Value.insert es (.text k) (.dict t)
    | some (.dict t) =>
      (updateAt? intoArrays f path t).map fun t => Value.insert es (.text k) (.dict t)
    | some (.list vs) =>
      if intoArrays then
        (updateLast? (updateAt? intoArrays f path) vs).map fun vs =>
          Value.insert es (.text k) (.list vs)
      else none
    | some _ => none

/-- A table with a new entry; none where the key is taken. -/
def addNew? (key : String) (v : Value) (es : Entries) : Option Entries :=
  if (Value.get? es key).isSome then none else some (Value.insert es (.text key) v)

/-- A table with an empty table at the end of the array under a key. -/
def addToArray? (key : String) (es : Entries) : Option Entries :=
  match Value.get? es key with
  | none => some (Value.insert es (.text key) (.list [.dict []]))
  | some (.list vs) => some (Value.insert es (.text key) (.list (vs ++ [.dict []])))
  | some _ => none

/-- What a mark on a path says. -/
inductive Mark where
  /-- The table has been declared, or opened by a dotted key. -/
  | declared
  /-- Neither the value nor anything in it may be added to. -/
  | closed
deriving DecidableEq

abbrev Marks := List (List String × Mark)

def Marks.isDeclared (ms : Marks) (path : List String) : Bool :=
  ms.any fun m => m.2 == .declared && m.1 == path

def Marks.isClosed (ms : Marks) (path : List String) : Bool :=
  ms.any fun m => m.2 == .closed && m.1.isPrefixOf path

/-- The marks without those at a path or below it. -/
def Marks.release (ms : Marks) (path : List String) : Marks :=
  ms.filter fun m => !path.isPrefixOf m.1

/-- Whether a value is closed once it is written. -/
def isContainer : Value → Bool
  | .dict _ | .list _ => true
  | _ => false

end Toml
end AccountInput
