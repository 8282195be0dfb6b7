import AccountInput.Checked.Bytes

namespace AccountInput

/-- The content of a scalar: an integer, and no truth value, that 64 bits hold without a sign. -/
def u64OfValue (v : Value) (name : String) : Except Fault { n : Nat // n < UInt64.size } :=
  let outside : Except Fault { n : Nat // n < UInt64.size } := do
    let shown ← v.statedStr
    throw (.stated .badValue (name ++ " must be in [0, 2**64), got " ++ shown))
  match v.strictInt? with
  | none => .error (.stated .wrongType (name ++ " must be an int, got " ++ v.typeName))
  | some (.ofNat n) => if h : n < UInt64.size then .ok ⟨n, h⟩ else outside
  | some (.negSucc _) => outside

def Amount.ofValue (v : Value) : Except Fault Amount :=
  (u64OfValue v "Amount").map fun n => ⟨n.1, n.2⟩

def BlockTime.ofValue (v : Value) : Except Fault BlockTime :=
  (u64OfValue v "BlockTime").map fun n => ⟨n.1, n.2⟩

/-- A value that is an amount already, or one made of it. -/
def Value.asAmount (v : Value) : Except Fault Amount :=
  match v with
  | .amount a => .ok a
  | _ => Amount.ofValue v

/-- A value that is a time already, or one made of it. -/
def Value.asBlockTime (v : Value) : Except Fault BlockTime :=
  match v with
  | .blockTime t => .ok t
  | _ => BlockTime.ofValue v

/-- A schedule of five values, checked in the order of the hash input. -/
def Schedule.ofValues (a b c d e : Value) : Except Fault Schedule := do
  let initialMinimumBalance ← a.asAmount
  let cliffTime ← b.asBlockTime
  let cliffAmount ← c.asAmount
  let vestingPeriod ← d.asBlockTime
  let vestingIncrement ← e.asAmount
  return { initialMinimumBalance, cliffTime, cliffAmount, vestingPeriod, vestingIncrement }

def Timing.ofValue (v : Value) : Except Fault Timing :=
  match v with
  | .schedule d => .ok (.timed d)
  | _ => .error (.stated .wrongType "Timed.data must be TimedData")

def TokenSymbol.dataName : Value := .text "TokenSymbol.data"

/-- The symbol of a value of 32 bytes. -/
def TokenSymbol.ofValue (v : Value) : Except Fault TokenSymbol := do
  let b ← v.bytesOfLength (.int 32) dataName
  match TokenSymbol.ofBytes? b with
  | some s => return s
  | none => throw .badValue

/-- The symbol of a value that converts to 32 bytes. -/
def TokenSymbol.ofByteValue (v : Value) : Except Fault TokenSymbol := do
  let length ← v.bytesLength
  if length = bufferBytes then
    let b ← v.toBytes
    TokenSymbol.ofValue (.bytes .fixed b)
  else Value.otherLength length (.int 32) dataName

def TokenSymbol.ofTextValue (v : Value) : Except Fault TokenSymbol :=
  match v.text? with
  | none => .error .noAttribute
  | some s =>
    match TokenSymbol.ofText s with
    | .ok t => .ok t
    | .error n =>
      .error (.stated .badValue ("token symbol must be at most 6 bytes, got " ++ toString n))

end AccountInput
