import AccountInput.Toml.Date
import AccountInput.Toml.Text
import AccountInput.Toml.Number
import AccountInput.Toml.Table

namespace AccountInput
namespace Toml

/-- What an optional reader read, as a reader that may fail. -/
def orMalformed {α : Type} (x : Option α) : Except ReadError α :=
  match x with
  | some a => .ok a
  | none => .error .malformed

/-- The calls within each other that are left to the reader of a value's parts. The value itself takes
some, and each part needs two. -/
def within (room calls : Nat) : Except ReadError Nat :=
  if room < calls + 2 then .error .tooDeep else .ok (room - calls)

/-- An inline table with one more entry. Its dotted keys do not lead into arrays, nor into what an
earlier entry closed. -/
def addInline? (closed : Marks) (es : Entries) (path : List String) (v : Value) :
    Option Entries :=
  if closed.isClosed path then none
  else
    match path.getLast? with
    | some key => updateAt? false (addNew? key v) path.dropLast es
    | none => none

mutual

/-- A value, and what follows it. -/
def readValue : (fuel room : Nat) → List Char → Except ReadError (Value × List Char)
  | 0, _, _ => .error .malformed
  | fuel + 1, room, cs =>
    match cs with
    | '"' :: _ | '\'' :: _ => do
      let (t, rest) ← orMalformed (quoted? cs)
      return (.text (String.ofList t), rest)
    | 't' :: 'r' :: 'u' :: 'e' :: rest => .ok (.bool true, rest)
    | 'f' :: 'a' :: 'l' :: 's' :: 'e' :: rest => .ok (.bool false, rest)
    | '[' :: rest => do
      let room ← within room 2
      match ← orMalformed (skipFiller? fuel rest) with
      | ']' :: rest => return (.list [], rest)
      | rest =>
        let (vs, rest) ← readItems fuel room rest
        return (.list vs, rest)
    | '{' :: rest => do
      let room ← within room 3
      match skipBlanks rest with
      | '}' :: rest => return (.dict [], rest)
      | rest =>
        let (es, rest) ← readEntries fuel room [] [] rest
        return (.dict es, rest)
    | _ =>
      match calendar? cs with
      | some read => read.map fun (s, rest) => (.standard s, rest)
      | none => number cs
termination_by structural fuel => fuel

/-- The items of an array from the next one on. A comma may follow the last. -/
def readItems : (fuel room : Nat) → List Char → Except ReadError (List Value × List Char)
  | 0, _, _ => .error .malformed
  | fuel + 1, room, cs => do
    let (v, rest) ← readValue fuel room cs
    match ← orMalformed (skipFiller? fuel rest) with
    | ']' :: rest => return ([v], rest)
    | ',' :: rest =>
      match ← orMalformed (skipFiller? fuel rest) with
      | ']' :: rest => return ([v], rest)
      | rest =>
        let (vs, rest) ← readItems fuel room rest
        return (v :: vs, rest)
    | _ => throw .malformed
termination_by structural fuel => fuel

/-- The entries of an inline table from the next one on, after those in `es`. No comma follows the
last. -/
def readEntries : (fuel room : Nat) → Marks → Entries → List Char →
    Except ReadError (Entries × List Char)
  | 0, _, _, _, _ => .error .malformed
  | fuel + 1, room, closed, es, cs => do
    let (path, v, rest) ← readPair fuel room cs
    let es ← orMalformed (addInline? closed es path v)
    match skipBlanks rest with
    | '}' :: rest => return (es, rest)
    | ',' :: rest =>
      let closed := if isContainer v then (path, Mark.closed) :: closed else closed
      readEntries fuel room closed es (skipBlanks rest)
    | _ => throw .malformed
termination_by structural fuel => fuel

def readPair : (fuel room : Nat) → List Char →
    Except ReadError (List String × Value × List Char)
  | 0, _, _ => .error .malformed
  | fuel + 1, room, cs => do
    match ← orMalformed (key? fuel cs) with
    | (path, '=' :: rest) =>
      let (v, rest) ← readValue fuel room (skipBlanks rest)
      return (path, v, rest)
    | _ => throw .malformed
termination_by structural fuel => fuel

end

end Toml
end AccountInput
