import AccountInput.Pattern.Reader
import AccountInput.Text.Date
import AccountInput.Text.Utf8
import AccountInput.Value.Equal

namespace AccountInput
namespace Cbor
namespace Tag

open DateText

/-- The minutes of a zone, which is less than a day ahead or behind. -/
def zone? (cs : List Char) : Option Int :=
  match cs with
  | ['Z'] => some 0
  | sign :: cs => do
    let (hours, cs) ← digits? 2 cs
    let (minutes, cs) ← digits? 2 (← after? ':' cs)
    let n := hours * 60 + minutes
    if cs.isEmpty && n < 1440 then
      if sign = '+' then return n else if sign = '-' then return -(n : Int) else none
    else none
  | [] => none

/-- The point in time that a text spells: date, time and zone. -/
def momentOfText? (s : String) : Option Standard := do
  let (date, cs) ← date? s.toList
  let (time, cs) ← time? (← after? 'T' cs)
  let offset ← zone? cs
  if date.isReal then return .moment (date.microseconds time offset) (some offset) else none

/-- The microseconds of a number of seconds, a half to the even neighbour. -/
def microseconds? (x : Double) : Option Int := do
  let (n, d) ← x.ratio?
  let whole := n.tdiv d
  let part := (n - whole * d).natAbs
  let (a, b) ← (Double.ofRatio false (part * 1000000) d).magnitude?
  let rounded : Int := Double.roundedQuotient a b
  return whole * 1000000 + (if n < 0 then -rounded else rounded)

/-- The point in time of a number of seconds since 1970, within the years 1 to 9999. -/
def momentOfNumber? (v : Value) : Option Standard := do
  let n ←
    match v with
    | .float x => microseconds? x
    | v => v.int?.map (· * 1000000)
  let day := n / 1000000 / Date.secondsOfDay + Date.epochDay
  if Date.firstDay ≤ day ∧ day ≤ Date.lastDay then return .moment n (some 0) else none

/-- The date of a number of days since 1970. -/
def dateOfNumber? (v : Value) : Option Standard := do
  let n ← v.int?
  let day := n + Date.epochDay
  if Date.firstDay ≤ day ∧ day ≤ Date.lastDay then return .date day.toNat else none

def dateSizes : List Nat := [7, 8, 10]

/-- The day that a text spells: year, month and day, or year, week and place in the week, with
hyphens between the parts or without. A week alone is its Monday. What follows within the length is
not looked at. -/
def dayOfText? (s : String) : Option Nat :=
  if s.utf8ByteSize ∉ dateSizes then none
  else do
    let (year, cs) ← digits? 4 s.toList
    let parted := cs.head? == some '-'
    let next (cs : List Char) := if parted then after? '-' cs else some cs
    match ← next cs with
    | 'W' :: cs =>
      let (week, cs) ← digits? 2 cs
      if cs.isEmpty then Date.dayOfWeek? year week 1
      else
        let (place, _) ← digits? 1 (← next cs)
        Date.dayOfWeek? year week place
    | cs =>
      let (month, cs) ← digits? 2 cs
      let (day, _) ← digits? 2 (← next cs)
      let d : Date := ⟨year, month, day⟩
      if d.isReal then return d.toDay else none

def twoInts? (v : Value) : Option (Int × Int) :=
  match v.items? with
  | some [a, b] => do return (← a.int?, ← b.int?)
  | _ => none

/-- The largest power of ten in a decimal fraction, and the least that stands for one. -/
def largestPower : Int := 999999999999999999
def leastExponent : Int := -1999999999999999997

/-- The decimal fraction of an exponent of ten and a number. -/
def decimal? (v : Value) : Option Standard := do
  let (exponent, n) ← twoInts? v
  let digits := n.natAbs
  if leastExponent ≤ exponent ∧ exponent + Decimal.digitCount digits ≤ largestPower + 1 then
    return .decimal (n < 0) digits exponent
  else none

/-- The digits that calculations keep, the largest power of ten that they reach, and the least
power that they keep a digit of. -/
def precision : Nat := 28
def calculatedPower : Int := 999999
def calculatedExponent : Int := -1000026

/-- Digits times a power of ten as calculations keep them, a half to the even neighbour. None is
kept of what is too large. -/
def calculated? (digits : Nat) (exponent : Int) : Option (Nat × Int) :=
  let surplus : Int := (Decimal.digitCount digits : Int) - precision
  let excess := (max surplus (calculatedExponent - exponent)).toNat
  let n := Double.roundedQuotient digits (Nat.pow 10 excess)
  let (kept, scale) :=
    if n = Nat.pow 10 precision then (Nat.pow 10 (precision - 1), exponent + excess + 1)
    else (n, exponent + excess)
  if kept ≠ 0 ∧ calculatedPower + 1 < scale + Decimal.digitCount kept then none
  else some (kept, scale)

/-- The exponents of two between which a power is neither too large nor nothing. -/
def largestBinary : Int := 3321928
def leastBinary : Int := -3400000

def powerOfTwo? (exponent : Int) : Option (Nat × Int) :=
  if largestBinary < exponent then none
  else if exponent < leastBinary then some (0, calculatedExponent)
  else if 0 ≤ exponent then calculated? (Nat.pow 2 exponent.toNat) 0
  else calculated? (Nat.pow 5 exponent.natAbs) exponent

/-- The decimal fraction of an exponent of two and a number. -/
def binary? (v : Value) : Option Standard := do
  let (exponent, n) ← twoInts? v
  let (power, scale) ← powerOfTwo? exponent
  let (digits, scale) ← calculated? (n.natAbs * power) scale
  return .decimal (n < 0) digits scale

/-- The ratio of two integers, in lowest terms. -/
def lowest? (n d : Int) : Option Standard :=
  if d = 0 then none
  else
    let g := Nat.gcd n.natAbs d.natAbs
    let num := (n.natAbs / g : Nat)
    some (.ratio (if (n < 0) = (d < 0) then num else -(num : Int)) (d.natAbs / g))

/-- The ratio that a value is: an integer or a ratio. -/
def rational? : Value → Option (Int × Nat)
  | .standard (.ratio n d) => some (n, d)
  | v => v.int?.map fun n => (n, 1)

def exactRatio? : Value → Option (Int × Nat)
  | .float x => x.ratio?
  | .extended e =>
    match e.numeric? with
    | some (.ratio n d) => some (n, d)
    | _ => none
  | v => v.int?.map fun n => (n, 1)

/-- The ratio of a sequence of a numerator and a denominator, which are integers or ratios. A
single number is its own ratio, and none at all is zero. -/
def ratio? (v : Value) : Option Standard := do
  match ← v.items? with
  | [] => lowest? 0 1
  | [a] | [a, .null] =>
    let (n, d) ← exactRatio? a
    lowest? n d
  | [a, b] =>
    let (n, d) ← rational? a
    let (m, e) ← rational? b
    lowest? (n * e) (m * d)
  | _ => none

def part? (v : Value) : Option Double :=
  match v with
  | .float x => some x
  | v => do
    let x := Double.ofInt (← v.int?)
    if x.isFinite then return x else none

/-- The complex number of a sequence of its parts, of which those at the end may be missing. -/
def complex? (v : Value) : Option Standard := do
  match ← v.items? with
  | [] => return .complex (.zero false) (.zero false)
  | [a] => return .complex (← part? a) (.zero false)
  | [a, b] => return .complex (← part? a) (← part? b)
  | _ => none

/-- The pattern of a source. A pattern is its own source. -/
def pattern? : Value → Option Standard
  | .text s => (Pattern.modes? true s.toList).map (.pattern (Quoted.text s))
  | .bytes .fixed b =>
    (Pattern.modes? false (b.map fun n => Char.ofNat n.toNat)).map (.pattern (Quoted.bytes b))
  | .standard (.pattern source modes) => some (.pattern source modes)
  | _ => none

/-- Whether a line of a message begins with the name of a header, which a colon ends. -/
def beginsHeader (line : List Char) : Bool :=
  (line.dropWhile fun c => '!' ≤ c && c ≤ '~' && c ≠ ':').head? == some ':'

/-- The number of headers at the front of a message. A line that begins with a blank goes on with
the one before it. -/
def headerCount (s : String) : Nat :=
  ((s.toList.splitOn '\n').takeWhile fun line =>
    beginsHeader line || line.head?.any fun c => c = ' ' || c = '\t').countP beginsHeader

def uuid? : Value → Option Standard
  | .bytes .fixed b => if b.length = 16 then some (.uuid b) else none
  | _ => none

/-- The number of a tag for addresses of any length, which is kept with those of six bytes. -/
def addressTag : Nat := 260

def address? : Value → Option Value
  | .bytes .fixed b =>
    if b.length = 4 ∨ b.length = 16 then some (.standard (.address (.ofBytes b)))
    else if b.length = 6 then some (.tagged addressTag (.bytes .fixed b))
    else none
  | _ => none

/-- The number of leading bits of an address that a value names. -/
def width? (a : Address) (v : Value) : Option Nat := do
  let n ← v.int?
  if 0 ≤ n ∧ n.toNat ≤ a.bits then return n.toNat else none

/-- The network of a map from an address to a width. -/
def network? (v : Value) : Option Standard :=
  match v.entries? with
  | some [(.bytes .fixed b, .int width)] => do
    let a := Address.ofBytes b
    let width ← width? a (.int width)
    if b.length = 4 ∨ b.length = 16 then return .network (a.masked width) width else none
  | _ => none

/-- The name of the zone of an address: a number, or a text without the characters that part an
address. -/
def zoneName? (v : Value) : Option String := do
  let name ←
    match v with
    | .int (.ofNat n) => Decimal.text? n
    | .bytes .fixed b => (Utf8.decode? b).map String.ofList
    | v => v.text?
  if name.isEmpty || name.contains '%' || name.contains '/' then none else return name

/-- An address within a network of a width, or alone where there is no width. -/
def placed? (a : Address) : Value → Option Standard
  | .null => if a.bytes.length = 4 then none else some (.address a)
  | v => (width? a v).map fun width => .interface a width

/-- What a tag for addresses of one length makes of its content. Bytes are an address; bytes before
a width are one within a network; bytes after a width, from which zeros at the end are left out,
are a network. An address of sixteen bytes may name its zone. -/
def sized? (size : Nat) (v : Value) : Option Standard :=
  match v with
  | .bytes .fixed b => if b.length = size then some (.address (.ofBytes b)) else none
  | v =>
    match v.items? with
    | some [.bytes .fixed b, width] =>
      if b.length = size then placed? (.ofBytes b) width else none
    | some [.bytes .fixed b, width, zone] => do
      let name ← zoneName? zone
      if b.length = size ∧ size ≠ 4 then placed? ⟨b, name⟩ width else none
    | some [width, .bytes .fixed b] => do
      let a := Address.ofBytes (b ++ List.replicate (size - b.length) 0)
      let width ← width? a width
      if b.length ≤ size ∧ a.masked width = a then return .network a width else none
    | _ => none

def natural? : Value → Option Nat
  | .bytes .fixed b => some (ofBigEndian b)
  | _ => none

def set? (frozen : Bool) (v : Value) : Option Value := do
  let xs ← v.items?
  if xs.all Value.isHashable then return Value.setOf frozen xs else none

/-- The numbers of the tag of a set and of the mark that says that what follows is CBOR. -/
def setTag : Nat := 258
def selfDescribedTag : Nat := 55799

/-- Whether the content of a tag cannot change, as if it were part of a key. -/
def fixesContent (tag : Nat) : Bool := tag == setTag || tag == selfDescribedTag

/-- What a tag makes of its content, where what stands elsewhere does not matter. A set that is
part of a key does not change. -/
def apply (asKey : Bool) (tag : Nat) (content : Value) : Option Value :=
  match tag with
  | 0 => do return .standard (← momentOfText? (← content.text?))
  | 1 => (momentOfNumber? content).map .standard
  | 2 => do return .int (← natural? content)
  | 3 => do return .int (-1 - (← natural? content))
  | 4 => (decimal? content).map .standard
  | 5 => (binary? content).map .standard
  | 30 => (ratio? content).map .standard
  | 35 => (pattern? content).map .standard
  | 36 => content.text?.map fun s => .standard (.message s (headerCount s))
  | 37 => (uuid? content).map .standard
  | 52 => (sized? 4 content).map .standard
  | 54 => (sized? 16 content).map .standard
  | 100 => (dateOfNumber? content).map .standard
  | 258 => set? asKey content
  | 260 => address? content
  | 261 => (network? content).map .standard
  | 1004 => do return .standard (.date (← dayOfText? (← content.text?)))
  | 43000 => (complex? content).map .standard
  | 55799 => some content
  | _ => some (.tagged tag content)

end Tag
end Cbor
end AccountInput
