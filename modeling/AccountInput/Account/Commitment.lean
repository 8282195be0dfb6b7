import AccountInput.HashInput.Sink
import Mathlib.Algebra.Group.Nat.Defs

namespace AccountInput

/-- A value of an account that the hash takes in. -/
inductive AccountValue where
  | amount (a : Amount)
  | schedule (d : Schedule)
  | timing (t : Timing)
  | symbol (s : TokenSymbol)

/-- Schedules that are committed to alike. -/
structure Schedule.CommitsLike (d e : Schedule) : Prop where
  initialMinimumBalance : d.initialMinimumBalance.val = e.initialMinimumBalance.val
  cliffTime : d.cliffTime.val % 2 ^ 32 = e.cliffTime.val % 2 ^ 32
  cliffAmount : d.cliffAmount.val = e.cliffAmount.val
  vestingPeriod : d.vestingPeriod.val % 2 ^ 32 = e.vestingPeriod.val % 2 ^ 32
  vestingIncrement : d.vestingIncrement.val = e.vestingIncrement.val

/-- Timings that are committed to alike. No untimed one is like a timed one. -/
inductive Timing.CommitsLike : Timing → Timing → Prop where
  | untimed : CommitsLike .untimed .untimed
  | timed {d e : Schedule} : d.CommitsLike e → CommitsLike (.timed d) (.timed e)

namespace AccountValue

/-- The kinds of values. The variants of a timing are of one kind. -/
inductive Kind where
  | amount
  | schedule
  | timing
  | symbol
deriving DecidableEq

def kind : AccountValue → Kind
  | .amount _ => .amount
  | .schedule _ => .schedule
  | .timing _ => .timing
  | .symbol _ => .symbol

/-- Values of one kind that are committed to alike. -/
inductive CommitsLike : AccountValue → AccountValue → Prop where
  | amount {a b : Amount} : a.val = b.val → CommitsLike (.amount a) (.amount b)
  | schedule {d e : Schedule} : d.CommitsLike e → CommitsLike (.schedule d) (.schedule e)
  | timing {t u : Timing} : t.CommitsLike u → CommitsLike (.timing t) (.timing u)
  | symbol {s t : TokenSymbol} : s.bytes.take 6 = t.bytes.take 6 → CommitsLike (.symbol s) (.symbol t)

open HashInput in
/-- Appends a value: an amount as what it hands out, any other by its own operation. -/
def append : AccountValue → Sink Unit
  | .amount a => Sink.splice (.amount a)
  | .schedule d => Sink.appendSchedule (.schedule d)
  | .timing t => Sink.appendTiming (.timing t)
  | .symbol s => Sink.appendSymbol (.symbol s)

/-- Appends values in their order. -/
def appendAll : List AccountValue → HashInput.Sink Unit
  | [] => pure ()
  | x :: xs => do
    append x
    appendAll xs

def hashInput (xs : List AccountValue) : Except Fault HashInput := (appendAll xs).fresh

def atoms : AccountValue → List Atom
  | .amount a => a.hashInput.atoms
  | .schedule d => d.atoms
  | .timing t => t.atoms
  | .symbol s => s.atoms

end AccountValue

end AccountInput
