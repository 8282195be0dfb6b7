import AccountInput.Checked.Account

namespace AccountInput
namespace Wire

def envelopeVersion : Value := .int 1

def inEnvelope (content : Value) : Value := .envelope content envelopeVersion

def openEnvelope (v : Value) (what : String) : Except Fault Value :=
  match v with
  | .envelope content version =>
    if version.equal envelopeVersion then .ok content
    else
      .error (Problem.wireFormat (what ++ ": unsupported envelope version")
        [("expected", envelopeVersion), ("got", version)])
  | _ =>
    .error (Problem.wireFormat (what ++ ": expected a versioned envelope")
      [("got", .text v.typeName)])

theorem openEnvelope_envelope (content version : Value) (what : String) :
    openEnvelope (.envelope content version) what =
      if version.equal envelopeVersion then .ok content
      else .error (Problem.wireFormat (what ++ ": unsupported envelope version")
        [("expected", envelopeVersion), ("got", version)]) := rfl

/-- The construction of a value of the account; its refusal is a fault of the record. -/
def built {α : Type} (record : String) (r : Except Fault α) : Except Fault α :=
  match r with
  | .error (.stated _ message) | .error (.incidental _ message) =>
    .error (Problem.wireFormatFrom message [("record", .text record)])
  | r => r

def amount (v : Value) : Except Fault Amount := built "Amount" (Amount.ofValue v)

def blockTime (v : Value) : Except Fault BlockTime := built "BlockTime" (BlockTime.ofValue v)

end Wire

namespace Schedule

/-- The scalars of a schedule as they stand in a record of a schema. -/
def toScalar (n : Nat) : Schema → Value
  | .v0 => Wire.inEnvelope (.int n)
  | .v1 => .int n

def toRecord (d : Schedule) (s : Schema) : Value :=
  let record := Value.scheduleRecord s (toScalar d.initialMinimumBalance.val s)
    (toScalar d.cliffTime.val s) (toScalar d.cliffAmount.val s)
    (toScalar d.vestingPeriod.val s) (toScalar d.vestingIncrement.val s)
  match s with
  | .v0 => Wire.inEnvelope record
  | .v1 => record

/-- The schedule of a record of the first schema, the envelopes and scalars in order. -/
def ofRecordV0 (v : Value) : Except Fault Schedule := do
  match ← Wire.openEnvelope v "TimedData" with
  | .scheduleRecord .v0 a b c d e =>
    let a ← Wire.openEnvelope a "initial_minimum_balance"
    let initialMinimumBalance ← Wire.amount a
    let b ← Wire.openEnvelope b "cliff_time"
    let cliffTime ← Wire.blockTime b
    let c ← Wire.openEnvelope c "cliff_amount"
    let cliffAmount ← Wire.amount c
    let d ← Wire.openEnvelope d "vesting_period"
    let vestingPeriod ← Wire.blockTime d
    let e ← Wire.openEnvelope e "vesting_increment"
    let vestingIncrement ← Wire.amount e
    return { initialMinimumBalance, cliffTime, cliffAmount, vestingPeriod, vestingIncrement }
  | w =>
    throw (Problem.wireFormat "TimedData: unexpected payload" [("got", .text w.typeName)])

/-- The schedule of a value with the five parts of one, of whatever class it is. -/
def ofRecordV1 (v : Value) : Except Fault Schedule := do
  let a ← v.part "initial_minimum_balance"
  let initialMinimumBalance ← Wire.amount a
  let b ← v.part "cliff_time"
  let cliffTime ← Wire.blockTime b
  let c ← v.part "cliff_amount"
  let cliffAmount ← Wire.amount c
  let d ← v.part "vesting_period"
  let vestingPeriod ← Wire.blockTime d
  let e ← v.part "vesting_increment"
  let vestingIncrement ← Wire.amount e
  return { initialMinimumBalance, cliffTime, cliffAmount, vestingPeriod, vestingIncrement }

def ofRecord : Schema → Value → Except Fault Schedule
  | .v0 => ofRecordV0
  | .v1 => ofRecordV1

end Schedule

namespace Timing

def toRecord (t : Timing) : Schema → Value
  | .v0 =>
    match t with
    | .untimed => Wire.inEnvelope (.untimedRecord .v0)
    | .timed d => Wire.inEnvelope (.timedRecord .v0 (d.toRecord .v0))
  | .v1 =>
    match t with
    | .untimed => .untimedRecord .v1
    | .timed d => .timedRecord .v1 (d.toRecord .v1)

/-- The timing of a record of the first schema. -/
def ofRecordV0 (v : Value) : Except Fault Timing := do
  match ← Wire.openEnvelope v "Timing" with
  | .untimedRecord .v0 => return .untimed
  | .timedRecord .v0 data =>
    let d ← Schedule.ofRecordV0 data
    return .timed d
  | w =>
    throw (Problem.wireFormat "unknown v0 timing variant" [("got", .text w.typeName)])

def ofRecordV1 (v : Value) : Except Fault Timing :=
  match v with
  | .untimedRecord .v1 => .ok .untimed
  | .timedRecord .v1 data => (Schedule.ofRecordV1 data).map .timed
  | _ =>
    .error (Problem.wireFormat "unknown v1 timing variant" [("got", .text v.typeName)])

def ofRecord : Schema → Value → Except Fault Timing
  | .v0 => ofRecordV0
  | .v1 => ofRecordV1

end Timing

namespace Value

/-- The named number inside a value with the parts of a schedule, in the form of a schema. -/
def recordScalar (v : Value) (name : String) (s : Schema) : Except Fault Value := do
  let w ← v.part name
  let n ← w.part "value"
  return match s with
    | .v0 => Wire.inEnvelope n
    | .v1 => n

/-- The record of a value that is a schedule, or has its parts. -/
def toScheduleRecord (v : Value) (s : Schema) : Except Fault Value :=
  match v with
  | .schedule d => .ok (d.toRecord s)
  | _ => do
    let a ← v.recordScalar "initial_minimum_balance" s
    let b ← v.recordScalar "cliff_time" s
    let c ← v.recordScalar "cliff_amount" s
    let d ← v.recordScalar "vesting_period" s
    let e ← v.recordScalar "vesting_increment" s
    let record := Value.scheduleRecord s a b c d e
    return match s with
      | .v0 => Wire.inEnvelope record
      | .v1 => record

def asTiming (v : Value) : Except Fault Timing :=
  match v with
  | .timing t => .ok t
  | _ => .error (.stated .wrongType ("expected Untimed or Timed, got " ++ v.typeName))

end Value
end AccountInput
