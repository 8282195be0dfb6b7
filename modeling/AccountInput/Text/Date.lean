import AccountInput.Calendar
import AccountInput.Text.Digit

namespace AccountInput
namespace DateText

/-- The number that a number of ASCII digits spell at the front of a text, and what follows. -/
def digits? (width : Nat) (cs : List Char) : Option (Nat × List Char) :=
  if cs.length < width then none
  else do
    let ds ← (cs.take width).mapM Text.asciiDigit?
    return (Decimal.ofDigits ds, cs.drop width)

def after? (c : Char) : List Char → Option (List Char)
  | d :: rest => if d = c then some rest else none
  | [] => none

/-- The date at the front of a text, which not every year need have, and what follows. -/
def date? (cs : List Char) : Option (Date × List Char) := do
  let (year, cs) ← digits? 4 cs
  let (month, cs) ← digits? 2 (← after? '-' cs)
  let (day, cs) ← digits? 2 (← after? '-' cs)
  if 1 ≤ month ∧ month ≤ 12 ∧ 1 ≤ day ∧ day ≤ 31 then return (⟨year, month, day⟩, cs) else none

/-- A number of two digits below a limit, and what follows. -/
def below? (limit : Nat) (cs : List Char) : Option (Nat × List Char) := do
  let (n, cs) ← digits? 2 cs
  if n < limit then return (n, cs) else none

/-- The microseconds of a fraction of a second, of which the first six digits count. -/
def fraction? : List Char → Option (Nat × List Char)
  | '.' :: cs => do
    let ds := cs.takeWhile fun c => '0' ≤ c && c ≤ '9'
    if ds.isEmpty then none
    else
      let (n, _) ← digits? 6 (ds.take 6 ++ List.replicate (6 - ds.length) '0')
      return (n, cs.drop ds.length)
  | _ => none

/-- The microseconds of a time of day at the front of a text, and what follows. -/
def time? (cs : List Char) : Option (Nat × List Char) := do
  let (hour, cs) ← below? 24 cs
  let (minute, cs) ← below? 60 (← after? ':' cs)
  let (second, cs) ← below? 60 (← after? ':' cs)
  let (part, cs) := (fraction? cs).getD (0, cs)
  return (((hour * 60 + minute) * 60 + second) * 1000000 + part, cs)

end DateText

/-- The microseconds since 1970 of a time of a day, by a clock that is minutes ahead. -/
def Date.microseconds (d : Date) (time : Nat) (offset : Int) : Int :=
  ((d.toDay : Int) - Date.epochDay) * Date.secondsOfDay * 1000000 + time - offset * 60000000

end AccountInput
