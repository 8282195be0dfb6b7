import AccountInput.Account.Scalar

namespace AccountInput

/-- A vesting schedule. -/
structure Schedule where
  initialMinimumBalance : Amount
  cliffTime : BlockTime
  cliffAmount : Amount
  vestingPeriod : BlockTime
  vestingIncrement : Amount
deriving DecidableEq

/-- The timing of an account. -/
inductive Timing where
  | untimed
  | timed (schedule : Schedule)
deriving DecidableEq

namespace Schedule

/-- The schedule that locks nothing. Its period is one, since a period of zero is degenerate. -/
def default : Schedule where
  initialMinimumBalance := .zero
  cliffTime := .zero
  cliffAmount := .zero
  vestingPeriod := ⟨1, by decide⟩
  vestingIncrement := .zero

/-- The five scalars in the order of the hash input. -/
def scalars (d : Schedule) : List Nat :=
  [d.initialMinimumBalance.val, d.cliffTime.val, d.cliffAmount.val, d.vestingPeriod.val,
    d.vestingIncrement.val]

/-- Amounts are absorbed whole; of the times the low 32 bits are packed. -/
def atoms (d : Schedule) : List Atom :=
  [.field d.initialMinimumBalance.toFp, .packed d.cliffTime.toFp 32, .field d.cliffAmount.toFp,
    .packed d.vestingPeriod.toFp 32, .field d.vestingIncrement.toFp]

def hashInput (d : Schedule) : HashInput := ⟨d.atoms⟩

end Schedule

namespace Timing

def schedule : Timing → Schedule
  | .untimed => .default
  | .timed d => d

def isTimed : Timing → Bool
  | .untimed => false
  | .timed _ => true

def tag : Timing → Nat
  | .untimed => 0
  | .timed _ => 1

def tagFp : Timing → Fp
  | .untimed => .zero
  | .timed _ => .one

def atoms (t : Timing) : List Atom := .packed t.tagFp 1 :: t.schedule.atoms

def hashInput (t : Timing) : HashInput := ⟨t.atoms⟩

end Timing

end AccountInput
