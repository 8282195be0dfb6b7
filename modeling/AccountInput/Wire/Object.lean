import AccountInput.Cbor.Item
import AccountInput.Wire.Record

namespace AccountInput
namespace Wire

def untimedName : String := "Untimed"
def timedName : String := "Timed"
def versionName : String := "version"
def contentName : String := "t"

def envelopeItem (content : Cbor.Item) : Cbor.Item :=
  .map [(versionName, .word 1), (contentName, content)]

/-- A scalar or record in the form of a schema. -/
def wrapItem (s : Schema) (i : Cbor.Item) : Cbor.Item :=
  match s with
  | .v0 => envelopeItem i
  | .v1 => i

end Wire

def Schedule.toItem (d : Schedule) (s : Schema) : Cbor.Item :=
  let scalar (n : Fin UInt64.size) := Wire.wrapItem s (.word n)
  Wire.wrapItem s (.map (Value.scheduleFields.zip
    [scalar ⟨d.initialMinimumBalance.val, d.initialMinimumBalance.lt⟩,
      scalar ⟨d.cliffTime.val, d.cliffTime.lt⟩,
      scalar ⟨d.cliffAmount.val, d.cliffAmount.lt⟩,
      scalar ⟨d.vestingPeriod.val, d.vestingPeriod.lt⟩,
      scalar ⟨d.vestingIncrement.val, d.vestingIncrement.lt⟩]))

def Timing.toItem (t : Timing) (s : Schema) : Cbor.Item :=
  match t with
  | .untimed => Wire.wrapItem s (.list [.text Wire.untimedName])
  | .timed d => Wire.wrapItem s (.list [.text Wire.timedName, d.toItem s])

def Timing.toObject (t : Timing) (s : Schema) : Value := (t.toItem s).toValue

namespace Wire

/-- The names of a record that a map lacks, in the order of the fields. -/
def missing (es : List (Value × Value)) : List String :=
  Value.scheduleFields.filter fun k => (Value.get? es k).isNone

/-- The keys of a map that are no names of a record. -/
def extra (es : List (Value × Value)) : List Value :=
  (es.map (·.1)).filter fun k =>
    !Value.scheduleFields.any fun name => Value.sameKey (.text name) k

def textList (ts : List String) : Value := .list (ts.map .text)

/-- Texts in ascending order. -/
def sortTexts (ts : List String) : List String := ts.mergeSort fun a b => a ≤ b

/-- The entries of a map with the fields of a schedule. -/
def recordEntries (v : Value) (what : String) : Except Fault (List (Value × Value)) :=
  match v.entries? with
  | none =>
    .error (Problem.wireFormat (what ++ ": expected a map") [("got", .text v.typeName)])
  | some es => do
    let shown ← (extra es).mapM Value.repr
    if (missing es).isEmpty && shown.isEmpty then return es
    else
      throw (Problem.wireFormat (what ++ ": field mismatch")
        [("missing", textList (missing es)), ("extra", textList (sortTexts shown))])

/-- A value that is an integer, of whatever sign and size. -/
def integer (v : Value) (what : String) : Except Fault Value :=
  match v.strictInt? with
  | some n => .ok (.int n)
  | none =>
    .error (Problem.wireFormat (what ++ ": expected an unsigned integer")
      [("got", .text v.typeName)])

/-- What follows the name of a variant: nothing, or the record of a schedule. -/
def variantBody (v : Value) (what : String) : Except Fault (Option Value) :=
  let unknown : Fault :=
    Problem.wireFormat (what ++ ": expected ['Untimed'] or ['Timed', record]") []
  let arity (name : String) (n : Nat) : Fault :=
    Problem.wireFormat (what ++ ": wrong arity for " ++ name) [("got", .int n)]
  match v.items? with
  | none | some [] => .error unknown
  | some (name :: rest) =>
    if name.equal (.text untimedName) then
      if rest.isEmpty then .ok none else .error (arity untimedName (rest.length + 1))
    else if name.equal (.text timedName) then
      match rest with
      | [body] => .ok (some body)
      | _ => .error (arity timedName (rest.length + 1))
    else .error unknown

def envelopeParts (v : Value) (what : String) : Except Fault (Value × Value) :=
  let unknown : Fault :=
    Problem.wireFormat (what ++ ": expected \x7b'version', 't'\x7d envelope") []
  match v.entries? with
  | none => .error unknown
  | some es =>
    match Value.get? es versionName, Value.get? es contentName with
    | some version, some content =>
      if es.length = 2 then do
        let n ← integer version (what ++ ".version")
        return (n, content)
      else .error unknown
    | _, _ => .error unknown

/-- The value of a field whose presence has been checked. -/
def field (es : List (Value × Value)) (name : String) : Except Fault Value :=
  match Value.get? es name with
  | some v => .ok v
  | none => .error (.incidental .noKey "")

/-- A field of a record of the first schema, in its envelope. -/
def scalarV0 (es : List (Value × Value)) (name : String) : Except Fault Value := do
  let v ← field es name
  let (version, content) ← envelopeParts v name
  let n ← integer content name
  return .envelope n version

def scalarV1 (es : List (Value × Value)) (name : String) : Except Fault Value := do
  let v ← field es name
  integer v name

def scalar : Schema → List (Value × Value) → String → Except Fault Value
  | .v0 => scalarV0
  | .v1 => scalarV1

/-- The record whose fields are the entries of a map. -/
def recordOfEntries (s : Schema) (es : List (Value × Value)) : Except Fault Value := do
  let a ← scalar s es "initial_minimum_balance"
  let b ← scalar s es "cliff_time"
  let c ← scalar s es "cliff_amount"
  let d ← scalar s es "vesting_period"
  let e ← scalar s es "vesting_increment"
  return .scheduleRecord s a b c d e

/-- The record of an object of the first schema. -/
def recordOfObjectV0 (v : Value) : Except Fault Value := do
  let (version, body) ← envelopeParts v "TimingV0"
  match ← variantBody body "TimingV0" with
  | none => return .envelope (.untimedRecord .v0) version
  | some data =>
    let (dataVersion, map) ← envelopeParts data "TimedDataV0"
    let es ← recordEntries map "TimedDataV0"
    let record ← recordOfEntries .v0 es
    return .envelope (.timedRecord .v0 (.envelope record dataVersion)) version

def recordOfObjectV1 (v : Value) : Except Fault Value := do
  match ← variantBody v "TimingV1" with
  | none => return .untimedRecord .v1
  | some data =>
    let es ← recordEntries data "TimedDataV1"
    let record ← recordOfEntries .v1 es
    return .timedRecord .v1 record

def recordOfObject : Schema → Value → Except Fault Value
  | .v0 => recordOfObjectV0
  | .v1 => recordOfObjectV1

end Wire

/-- The timing of an object: its shape is checked first, then the record. -/
def Timing.ofObject (s : Schema) (v : Value) : Except Fault Timing := do
  let record ← Wire.recordOfObject s v
  Timing.ofRecord s record

end AccountInput
