import AccountInput.Calendar

namespace AccountInput
namespace Clock

/-- The text of a number of milliseconds since the first of January 1970. -/
def text (milliseconds : Nat) : String :=
  let seconds := milliseconds / 1000
  (Date.ofDay (Date.epochDay + seconds / Date.secondsOfDay)).text ++ "T" ++
    Date.clockText (seconds % Date.secondsOfDay) ++ "." ++
    Decimal.zeroed 3 (milliseconds % 1000) ++ "+00:00"

/-- Whether a character may stand at the place of another in the text of a time: a digit for a
digit, everything else for itself. -/
def fits (sample c : Char) : Bool := if sample.isDigit then c.isDigit else c == sample

def isWellFormed (s : String) : Bool :=
  let sample := "0000-00-00T00:00:00.000"
  s.length == sample.length + 6 && s.endsWith "+00:00" &&
    (sample.toList.zip s.toList).all fun (a, b) => fits a b

end Clock
end AccountInput
