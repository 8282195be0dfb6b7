import AccountInput.Text.Date
import AccountInput.Toml.Number
import AccountInput.Value.Standard

namespace AccountInput
namespace Toml

/-- The minutes by which a zone is ahead, and what follows it. -/
def zone? : List Char → Option (Int × List Char)
  | 'Z' :: rest | 'z' :: rest => some (0, rest)
  | sign :: cs => do
    let (hours, cs) ← DateText.below? 24 cs
    let (minutes, cs) ← DateText.below? 60 (← DateText.after? ':' cs)
    let n : Int := hours * 60 + minutes
    if sign = '+' then return (n, cs) else if sign = '-' then return (-n, cs) else none
  | [] => none

/-- The time of day that stands after a date, apart from it. -/
def timeAfter? : List Char → Option (Nat × List Char)
  | 'T' :: cs | 't' :: cs | ' ' :: cs => DateText.time? cs
  | _ => none

/-- What begins with a date: it alone, or a time of that day with or without a zone. -/
def moment (d : Date) (cs : List Char) : Standard × List Char :=
  match timeAfter? cs with
  | none => (.date d.toDay, cs)
  | some (time, cs) =>
    match zone? cs with
    | none => (.moment (d.microseconds time 0) none, cs)
    | some (offset, cs) => (.moment (d.microseconds time offset) (some offset), cs)

/-- A date, a time or both, and what follows. A date that its year does not have is malformed. -/
def calendar? (cs : List Char) : Option (Except ReadError (Standard × List Char)) :=
  match DateText.date? cs with
  | some (d, rest) => some (if d.isReal then .ok (moment d rest) else .error .malformed)
  | none => (DateText.time? cs).map fun (time, rest) => .ok (.time time, rest)

theorem isCalendar_of_calendar? {cs rest : List Char} {s : Standard} (run : calendar? cs = some (.ok (s, rest))) :
    s.isCalendar = true := by
  unfold calendar? at run
  split at run
  · rename_i d after _
    split at run
    · have same := congrArg Prod.fst (Except.ok.inj (Option.some.inj run))
      subst same
      unfold moment
      split
      · rfl
      · split <;> rfl
    · cases run
  · obtain ⟨_, _, same⟩ := Option.map_eq_some_iff.mp run
    cases same
    rfl

end Toml
end AccountInput
