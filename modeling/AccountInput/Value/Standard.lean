import AccountInput.Calendar
import AccountInput.Cbor.Address
import AccountInput.Number.Decimal
import AccountInput.Number.Double
import AccountInput.Number.Shortest
import AccountInput.Pattern.Basic
import AccountInput.Text.Quoted

namespace AccountInput

/-- A value of a type that the language brings along. -/
inductive Standard where
  /-- A date with a time of day, in microseconds since 1970, and the minutes by which its zone is
  ahead. Without a zone it is the time of no place in particular. -/
  | moment (microseconds : Int) (offset : Option Int)
  | date (day : Nat)
  /-- A time of day, in microseconds. -/
  | time (microseconds : Nat)
  /-- Digits times a power of ten. -/
  | decimal (negative : Bool) (digits : Nat) (exponent : Int)
  | ratio (num : Int) (den : Nat)
  | complex (real imaginary : Double)
  /-- A pattern of texts or bytes, by its quoted source and the modes that this sets. -/
  | pattern (source : String) (modes : List Pattern.Mode)
  /-- A message, by its text and the number of its headers. -/
  | message (text : String) (headers : Nat)
  | uuid (bytes : List UInt8)
  | address (a : Cbor.Address)
  /-- An address and the number of leading bits that it shares with its network. -/
  | interface (a : Cbor.Address) (width : Nat)
  /-- The addresses that agree with a given one on a number of leading bits. -/
  | network (a : Cbor.Address) (width : Nat)
deriving DecidableEq

namespace Standard

def typeName : Standard → String
  | .moment .. => "datetime"
  | .date _ => "date"
  | .time _ => "time"
  | .decimal .. => "Decimal"
  | .ratio .. => "Fraction"
  | .complex .. => "complex"
  | .pattern .. => "Pattern"
  | .message .. => "Message"
  | .uuid _ => "UUID"
  | .address a => a.kindName "Address"
  | .interface a _ => a.kindName "Interface"
  | .network a _ => a.kindName "Network"

/-- Whether a value is a date, a time or both. -/
def isCalendar : Standard → Bool
  | .moment .. | .date _ | .time _ => true
  | _ => false

def called (name : String) (parts : List String) : String :=
  name ++ "(" ++ ", ".intercalate parts ++ ")"

def dateParts (day : Nat) : List String :=
  let d := Date.ofDay day
  [toString d.year, toString d.month, toString d.day]

/-- The text of a zone inside another text. -/
def zoneRepr (offset : Int) : String :=
  if offset = 0 then "datetime.timezone.utc"
  else
    let seconds := "seconds=" ++ toString (offset * 60 % Date.secondsOfDay)
    called "datetime.timezone" [called "datetime.timedelta"
      (if offset < 0 then ["days=-1", seconds] else [seconds])]

/-- Hours, minutes, seconds and microseconds. Of the last two, those are left out that are zero and
have nothing after them. -/
def clockParts (microseconds : Nat) : List String :=
  let part := microseconds % 1000000
  let seconds := microseconds / 1000000
  ([seconds / 3600, seconds / 60 % 60] ++
    (if part ≠ 0 then [seconds % 60, part]
    else if seconds % 60 ≠ 0 then [seconds % 60] else [])).map toString

/-- The day and the microseconds of the day that a clock shows. -/
def shownAt (microseconds : Int) (offset : Option Int) : Nat × Nat :=
  let here := microseconds + offset.getD 0 * 60000000
  ((Date.epochDay + here / 1000000 / Date.secondsOfDay).toNat,
    (here % (1000000 * Date.secondsOfDay)).toNat)

def momentRepr (microseconds : Int) (offset : Option Int) : String :=
  let (day, rest) := shownAt microseconds offset
  called "datetime.datetime" (dateParts day ++ clockParts rest ++
    offset.toList.map fun o => "tzinfo=" ++ zoneRepr o)

def timeText (microseconds : Nat) : String :=
  let part := microseconds % 1000000
  Date.clockText (microseconds / 1000000) ++ (if part = 0 then "" else "." ++ Decimal.zeroed 6 part)

def zoneText (offset : Int) : String :=
  (if offset < 0 then "-" else "+") ++ Decimal.zeroed 2 (offset.natAbs / 60) ++ ":" ++
    Decimal.zeroed 2 (offset.natAbs % 60)

def momentText (microseconds : Int) (offset : Option Int) : String :=
  let (day, rest) := shownAt microseconds offset
  (Date.ofDay day).text ++ " " ++ timeText rest ++ (offset.map zoneText).getD ""

/-- The text of a decimal fraction: positional unless the exponent is positive or more than six
zeros would follow the point, else with one digit before the point. -/
def decimalText (negative : Bool) (digits : Nat) (exponent : Int) : String :=
  let ds := Nat.toDigits 10 digits
  let point := exponent + ds.length
  let shown := if exponent ≤ 0 ∧ -6 < point then point else 1
  let body :=
    if shown ≤ 0 then ['0', '.'] ++ List.replicate (-shown).toNat '0' ++ ds
    else if ds.length ≤ shown.toNat then ds
    else ds.take shown.toNat ++ '.' :: ds.drop shown.toNat
  let power :=
    if point = shown then ""
    else "E" ++ (if point < shown then "-" else "+") ++ toString (point - shown).natAbs
  (if negative then "-" else "") ++ String.ofList body ++ power

/-- The text of a part of a complex number: that of the number, without a fraction of zero. -/
def partText (x : Double) : String :=
  if x.text.endsWith ".0" then (x.text.dropEnd 2).toString else x.text

def complexText (real imaginary : Double) : String :=
  if real.isZero && !real.isNegative then partText imaginary ++ "j"
  else
    "(" ++ partText real ++ (if imaginary.isNegative then "" else "+") ++ partText imaginary ++ "j)"

def uuidText (bs : List UInt8) : String :=
  "-".intercalate ([(0, 4), (4, 2), (6, 2), (8, 2), (10, 6)].map fun (start, count) =>
    Hex.text ((bs.drop start).take count))

/-- The most characters of the source of a pattern that its text shows. -/
def sourceLimit : Nat := 200

def patternText (source : String) (modes : List Pattern.Mode) : String :=
  let shown := String.ofList (source.toList.take sourceLimit)
  called "re.compile" (if modes.isEmpty then [shown]
    else [shown, "|".intercalate (modes.map fun m => "re." ++ m.name)])

/-- The text of a value inside another. There is none for a ratio of too many digits. -/
def repr? : Standard → Option String
  | .moment microseconds offset => some (momentRepr microseconds offset)
  | .date day => some (called "datetime.date" (dateParts day))
  | .time microseconds => some (called "datetime.time" (clockParts microseconds))
  | .decimal negative digits exponent =>
    some (called "Decimal" ["'" ++ decimalText negative digits exponent ++ "'"])
  | .ratio num den => do
    let n ← Decimal.text? num
    let d ← Decimal.text? den
    return called "Fraction" [n, d]
  | .complex real imaginary => some (complexText real imaginary)
  | .pattern source modes => some (patternText source modes)
  | .message .. => some "<email.message.Message object>"
  | .uuid bs => some (called "UUID" ["'" ++ uuidText bs ++ "'"])
  | .address a => some (called (a.kindName "Address") [Quoted.text a.text])
  | .interface a width =>
    some (called (a.kindName "Interface") [Quoted.text (a.textWithin width)])
  | .network a width => some (called (a.kindName "Network") [Quoted.text (a.textWithin width)])

/-- The text of a value on its own: what stands between the quotation marks of the other one, if
anything does, and for a ratio or a time the usual way to write it. -/
def str? : Standard → Option String
  | .moment microseconds offset => some (momentText microseconds offset)
  | .date day => some (Date.ofDay day).text
  | .time microseconds => some (timeText microseconds)
  | .decimal negative digits exponent => some (decimalText negative digits exponent)
  | .ratio num den => do
    let n ← Decimal.text? num
    let d ← Decimal.text? den
    return if den = 1 then n else n ++ "/" ++ d
  | .message text _ => some text
  | .uuid bs => some (uuidText bs)
  | .address a => some a.text
  | .interface a width | .network a width => some (a.textWithin width)
  | s => s.repr?

/-- The largest exponent of a decimal fraction that is compared with numbers of other types. -/
def comparedExponent : Nat := 1000000

/-- The number that a value stands for, if it stands for one. -/
def numeric? : Standard → Option Numeric
  | .decimal negative digits exponent =>
    if digits = 0 then some (.whole 0)
    else if exponent.natAbs ≤ comparedExponent then
      let (n, d) := Double.scaleDownTen digits 1 (-exponent)
      some (.ratio (if negative then -(n : Int) else n) d)
    else none
  | .ratio num den => some (.ratio num den)
  | .complex real imaginary => if imaginary.isZero then some (.binary real) else none
  | _ => none

/-- Whether a value counts as true: all do but zeros and messages without headers. -/
def isTruthy : Standard → Bool
  | .decimal _ digits _ => digits != 0
  | .ratio num _ => num != 0
  | .complex real imaginary => !(real.isZero && imaginary.isZero)
  | .message _ headers => headers != 0
  | _ => true

/-- A value in the one form that those of the same meaning share: digits without zeros at the end,
a moment in a zone without that zone. -/
def normal : Standard → Standard
  | .moment microseconds (some _) => .moment microseconds (some 0)
  | .decimal negative digits exponent =>
    let zeros := ((Nat.toDigits 10 digits).reverse.takeWhile (· = '0')).length
    .decimal negative (digits / Nat.pow 10 zeros) (exponent + zeros)
  | e => e

/-- Equality by meaning. No message is equal to another. -/
def equal (e f : Standard) : Bool :=
  match e, f with
  | .message .., _ => false
  | .complex a b, .complex c d => a.order c == some .eq && b.order d == some .eq
  | e, f =>
    match e.numeric?, f.numeric? with
    | some x, some y => x.equal y
    | _, _ => e.normal == f.normal

end Standard
end AccountInput
