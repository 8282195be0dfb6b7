import AccountInput.Value.Equal
import AccountInput.Value.Text

namespace AccountInput
namespace Value

/-- The values that a report shows as they are. -/
def isReportable : Value → Bool
  | .null | .bool _ | .int _ | .float _ | .text _ | .code _ | .list _ | .dict _ => true
  | _ => false

/-- A value as problem data shows it. There is none for a text with too many digits. -/
def reported? (v : Value) : Option Value :=
  if v.isReportable then some v
  else
    match v with
    | .bytes .fixed b | .bytes .growable b => some (.text (Hex.text b))
    | _ => (str? v).map .text

/-- Whether a value is a record of named fields. -/
def isRecord : Value → Bool
  | .fp _ | .amount _ | .blockTime _ | .schedule _ | .timing _ | .symbol _ | .envelope ..
  | .untimedRecord _ | .timedRecord .. | .scheduleRecord .. | .atom _ | .settings .. => true
  | _ => false

/-- An amount or a time as the dictionary of its field. -/
def scalarDict (n : Nat) : Value := .dict (ofFields [("value", .int n)])

def fpDict (x : Fp) : Value := .dict (ofFields [("n", .int x.val)])

def scheduleDict (d : Schedule) : Value :=
  .dict (ofFields (scheduleFields.zip (d.scalars.map scalarDict)))

/-- A dictionary of unfolded entries. It fails on a key that may change. -/
def dictOfUnfolded? (es : List (Value × Value)) : Option Value :=
  if es.all (isHashable ·.1) then some (.dict (merge [] es)) else none

mutual

/-- A value in which every record, at every depth, is the dictionary of its fields. It fails on a
view of bytes, which cannot be copied, and on a dictionary whose keys hold records. -/
def unfolded? : Value → Option Value
  | .fp x => some (fpDict x)
  | .amount a => some (scalarDict a.val)
  | .blockTime t => some (scalarDict t.val)
  | .schedule d => some (scheduleDict d)
  | .timing .untimed => some (.dict [])
  | .timing (.timed d) => some (.dict (ofFields [("data", scheduleDict d)]))
  | .symbol s => some (.dict (ofFields [("data", .bytes .fixed s.bytes)]))
  | .envelope content version => do
    let c ← unfolded? content
    let v ← unfolded? version
    return .dict (ofFields [("t", c), ("version", v)])
  | .untimedRecord _ => some (.dict [])
  | .timedRecord _ data => (unfolded? data).map fun d => .dict (ofFields [("data", d)])
  | .scheduleRecord _ a b c d e => do
    let a ← unfolded? a
    let b ← unfolded? b
    let c ← unfolded? c
    let d ← unfolded? d
    let e ← unfolded? e
    return .dict (ofFields (scheduleFields.zip [a, b, c, d, e]))
  | .atom (.field v) => some (.dict (ofFields [("value", fpDict v)]))
  | .atom (.packed v bits) =>
    some (.dict (ofFields [("value", fpDict v), ("bits", .int bits)]))
  | .settings level json version => do
    let l ← unfolded? level
    let j ← unfolded? json
    let v ← unfolded? version
    return .dict (ofFields [("log_level", l), ("log_json", j), ("wire_version", v)])
  | .list xs => (unfoldedAll? xs).map .list
  | .tuple xs => (unfoldedAll? xs).map .tuple
  | .dict es => (unfoldedEach? es).bind dictOfUnfolded?
  | .bytes .view _ => none
  | v => some v

def unfoldedAll? : List Value → Option (List Value)
  | [] => some []
  | x :: xs => do
    let y ← unfolded? x
    let ys ← unfoldedAll? xs
    return y :: ys

def unfoldedEach? : List (Value × Value) → Option (List (Value × Value))
  | [] => some []
  | (k, v) :: es => do
    let k ← unfolded? k
    let v ← unfolded? v
    let rest ← unfoldedEach? es
    return (k, v) :: rest

end

end Value
end AccountInput
