import AccountInput.Value.Number

namespace AccountInput
namespace HashInput

/-- The element that an operand of an append stands for: an element, or an integer, which is
reduced. -/
def operand (v : Value) : Except Fault Fp :=
  match v with
  | .fp x => .ok x
  | _ =>
    match v.strictInt? with
    | some n => .ok (Fp.ofInt n)
    | none => .error (.stated .wrongType ("expected int or Fp, got " ++ v.typeName))

def fieldAtom (v : Value) : Except Fault Atom := (operand v).map .field

/-- The atom of a packed value. The width is checked first, then the operand, then that the
reduced operand fits. -/
def packedAtom (v bits : Value) : Except Fault Atom :=
  match bits.strictInt? with
  | none => .error (.stated .wrongType "bits must be an int")
  | some n =>
    if 1 ≤ n ∧ n ≤ Atom.maxBits then do
      let x ← operand v
      if x.val < Nat.pow 2 n.toNat then return .packed x n
      else throw (.stated .badValue ("value does not fit in " ++ toString n ++ " bits"))
    else do
      let shown ← bits.statedStr
      throw (.stated .badValue ("bits must be in [1, 254], got " ++ shown))

/-- The atom of a condition. -/
def boolAtom (v : Value) : Except Fault Atom := do
  let b ← v.truth
  packedAtom (.int (if b then 1 else 0)) (.int 1)

/-- The atom of an unsigned integer of 32 bits. -/
def u32Atom (v : Value) : Except Fault Atom := do
  let within ← v.isWithin (UInt32.size - 1)
  if within then packedAtom v (.int 32)
  else throw (.stated .badValue "append_u32: value out of range")

/-- The atom of an unsigned integer of 64 bits. -/
def u64Atom (v : Value) : Except Fault Atom := do
  let within ← v.isWithin (UInt64.size - 1)
  if within then packedAtom v (.int 64)
  else throw (.stated .badValue "append_u64: value out of range")

def timingAtoms (v : Value) : Except Fault (List Atom) :=
  match v with
  | .timing t => .ok t.atoms
  | _ => .error (.stated .wrongType ("expected Untimed or Timed, got " ++ v.typeName))

/-- The low 32 bits of a time. -/
def low32 (v : Value) : Except Fault Nat :=
  match v with
  | .blockTime t => .ok t.low32
  | _ => .error .noAttribute

def amountPartAtom (v : Value) (name : String) : Except Fault Atom := do
  let a ← v.part name
  let n ← a.part "value"
  fieldAtom n

def timePartAtom (v : Value) (name : String) : Except Fault Atom := do
  let t ← v.part name
  let n ← low32 t
  packedAtom (.int n) (.int 32)

/-- The atoms of a value with the five parts of a schedule. -/
def scheduleAtoms (v : Value) : Except Fault (List Atom) :=
  match v with
  | .schedule d => .ok d.atoms
  | _ => do
    let a ← amountPartAtom v "initial_minimum_balance"
    let b ← timePartAtom v "cliff_time"
    let c ← amountPartAtom v "cliff_amount"
    let d ← timePartAtom v "vesting_period"
    let e ← amountPartAtom v "vesting_increment"
    return [a, b, c, d, e]

/-- The atoms of a value that is a token symbol. -/
def symbolAtoms (v : Value) : Except Fault (List Atom) :=
  match v with
  | .symbol s => .ok s.atoms
  | _ => .error .noAttribute

def producerKinds : List String :=
  ["Amount", "TimedData", "Timing", "Timed", "Untimed", "Other", "TokenSymbol"]

def produced (v : Value) : Except Fault Value :=
  match v with
  | .amount a => .ok (.hashInput a.hashInput)
  | .schedule d => .ok (.hashInput d.hashInput)
  | .timing _ | .foreignTiming => (timingAtoms v).map fun as => .hashInput ⟨as⟩
  | .symbol s => .ok (.hashInput s.hashInput)
  | .producer w => .ok w
  | .kind n => .error (if producerKinds.contains n then .wrongType else .noAttribute)
  | _ => .error .noAttribute

def producedAtoms (v : Value) : Except Fault (List Atom) := do
  match ← produced v with
  | .hashInput h => return h.atoms
  | _ => throw (.stated .wrongType "to_chunked_roinput() must return a ChunkedROInput")

/-- What the sponge absorbs in place of the atoms. -/
def absorbed (h : HashInput) : Except Fault (List Fp) :=
  match h.toFields with
  | .ok fs => .ok fs
  | .error .tooLarge =>
    .error (.stated .badValue "Fp.n must be a canonical representative in [0, P)")
  | .error .negativeShift => .error .badValue

end HashInput
end AccountInput
