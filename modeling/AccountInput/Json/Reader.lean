import AccountInput.Json.Token
import AccountInput.Value.Equal

namespace AccountInput
namespace Json

/-- Why a text is not read. -/
inductive ReadError where
  /-- The text is not JSON, or is nested too deeply. -/
  | malformed
  /-- An integer has too many digits. -/
  | tooManyDigits
deriving DecidableEq

/-- A container under construction: its items, or its members and the name of the next. -/
inductive Frame where
  | list (items : List Value)
  | object (members : List (Value × Value)) (name : String)

/-- What may come next. -/
inductive Expected where
  /-- A value, or the end of the list where none has come yet. -/
  | value (orClose : Bool)
  /-- A name, or the end of the object where none has come yet. -/
  | name (members : List (Value × Value)) (orClose : Bool)
  | colon (members : List (Value × Value)) (name : String)
  /-- After a whole value: a comma or the end of the container that holds it. -/
  | after (v : Value)

/-- How far a reading has come: what is expected, and the containers around it. -/
structure State where
  expected : Expected
  stack : List Frame

def depthLimit : Nat := 1000

/-- The containers around the next value, if one more may open. -/
def deeper (stack : List Frame) (s : State) : Except ReadError State :=
  if stack.length < depthLimit then .ok s else .error .malformed

/-- The state after a whole value that stands at the place of the next token. -/
def State.finish (v : Value) (stack : List Frame) : State := ⟨.after v, stack⟩

def readValue (orClose : Bool) (stack : List Frame) : Token → Except ReadError State
  | .openList => deeper stack ⟨.value true, .list [] :: stack⟩
  | .openObject => deeper stack ⟨.name [] true, stack⟩
  | .closeList =>
    match orClose, stack with
    | true, .list items :: outer => .ok (.finish (.list items.reverse) outer)
    | _, _ => .error .malformed
  | .text s => .ok (.finish (.text s) stack)
  | .int n => .ok (.finish (.int n) stack)
  | .longInt => .error .tooManyDigits
  | .float x => .ok (.finish (.float x) stack)
  | .null => .ok (.finish .null stack)
  | .bool b => .ok (.finish (.bool b) stack)
  | _ => .error .malformed

def readAfter (v : Value) (stack : List Frame) (t : Token) : Except ReadError State :=
  match t, stack with
  | .comma, .list items :: outer => .ok ⟨.value false, .list (v :: items) :: outer⟩
  | .closeList, .list items :: outer => .ok (.finish (.list (v :: items).reverse) outer)
  | .comma, .object members name :: outer =>
    .ok ⟨.name (Value.insert members (.text name) v) false, outer⟩
  | .closeObject, .object members name :: outer =>
    .ok (.finish (.dict (Value.insert members (.text name) v)) outer)
  | _, _ => .error .malformed

def step (s : State) (t : Token) : Except ReadError State :=
  match s.expected with
  | .value orClose => readValue orClose s.stack t
  | .name members orClose =>
    match t with
    | .text name => .ok ⟨.colon members name, s.stack⟩
    | .closeObject =>
      if orClose then .ok (.finish (.dict members) s.stack) else .error .malformed
    | _ => .error .malformed
  | .colon members name =>
    match t with
    | .colon => .ok ⟨.value false, .object members name :: s.stack⟩
    | _ => .error .malformed
  | .after v => readAfter v s.stack t

def ofTokens (ts : List Token) : Except ReadError Value := do
  let s ← ts.foldlM step ⟨.value false, []⟩
  match s with
  | ⟨.after v, []⟩ => return v
  | _ => throw .malformed

def read (cs : List Char) : Except ReadError Value := ofTokens (tokens cs)

end Json
end AccountInput
