import AccountInput.Json.Reader
import AccountInput.Fault

namespace AccountInput
namespace Document

def textOfBytes (bs : List UInt8) : Except Fault String :=
  match Utf8.toString? bs with
  | some s => .ok s
  | none => .error (Problem.graphqlParseFrom "document is not valid UTF-8")

/-- The value that a text spells. An integer of too many digits is no fault of the format. -/
def valueOfText (s : String) : Except Fault Value :=
  match Json.read s.toList with
  | .ok v => .ok v
  | .error .malformed => .error (Problem.graphqlParseFrom "document is not valid JSON")
  | .error .tooManyDigits => .error .tooManyDigits

def membersOfValue (v : Value) : Except Fault (List (Value × Value)) :=
  match v.entries? with
  | some es => .ok es
  | none =>
    .error (Problem.graphqlParse "document must be a JSON object" .null
      [("got", .text v.typeName)])

/-- The members of a document in any of its forms. -/
def members (doc : Value) : Except Fault (List (Value × Value)) :=
  match doc with
  | .bytes .fixed bs | .bytes .growable bs => do
    let s ← textOfBytes bs
    let v ← valueOfText s
    membersOfValue v
  | _ =>
    match doc.text? with
    | some s => do
      let v ← valueOfText s
      membersOfValue v
    | none => membersOfValue doc

end Document
end AccountInput
