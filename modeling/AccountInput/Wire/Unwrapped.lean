import AccountInput.Wire.Object

namespace AccountInput
namespace Wire

/-- The version and the content of entries that are an envelope. -/
def envelope? (es : List (Value × Value)) : Option (Value × Value) :=
  if es.length = 2 then do
    let version ← Value.get? es versionName
    let content ← Value.get? es contentName
    return (version, content)
  else none

/-- The content of entries that are an envelope; others make up a map. -/
def contentOr (form : List (Value × Value) → Value) (es : List (Value × Value)) : Value :=
  match envelope? es with
  | some (_, content) => content
  | none => form es

mutual

/-- A value in which every envelope, at every depth, gives way to its content. -/
def unwrapped : Value → Value
  | .list xs => .list (allUnwrapped xs)
  | .tuple xs => .tuple (allUnwrapped xs)
  | .dict es => contentOr .dict (eachUnwrapped es)
  | .frozenDict es => contentOr .frozenDict (eachUnwrapped es)
  | v => v

def allUnwrapped : List Value → List Value
  | [] => []
  | x :: xs => unwrapped x :: allUnwrapped xs

def eachUnwrapped : List (Value × Value) → List (Value × Value)
  | [] => []
  | (k, v) :: es => (k, unwrapped v) :: eachUnwrapped es

end

mutual

/-- The versions of all envelopes in a value, at every depth. -/
def envelopeVersions : Value → List Value
  | .list xs | .tuple xs => allEnvelopeVersions xs
  | .dict es | .frozenDict es => (envelope? es).toList.map (·.1) ++ eachEnvelopeVersions es
  | _ => []

def allEnvelopeVersions : List Value → List Value
  | [] => []
  | x :: xs => envelopeVersions x ++ allEnvelopeVersions xs

def eachEnvelopeVersions : List (Value × Value) → List Value
  | [] => []
  | (_, v) :: es => envelopeVersions v ++ eachEnvelopeVersions es

end

/-- A value in the form of a schema: in an envelope of the one version, or as it is. -/
def enveloped (s : Schema) (v : Value) : Value :=
  match s with
  | .v0 => .dict (Value.ofFields [(versionName, envelopeVersion), (contentName, v)])
  | .v1 => v

end Wire

/-- The content of the field of a schedule that has a given name. -/
def Schedule.ownField? (d : Schedule) (name : String) : Option Value :=
  ((Value.schedule d).part? name).bind (·.part? "value")

end AccountInput
