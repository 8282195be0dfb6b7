import AccountInput.Text.CodePoint
import AccountInput.Value.Text

namespace AccountInput
namespace Json

/-- A number of four hexadecimal digits, after its mark. -/
def unitEscape (n : Nat) : List Char := '\\' :: 'u' :: Quoted.hexDigits 4 n

/-- A character beyond ASCII: one code unit, or two for one that takes two. -/
def wideEscape (n : Nat) : List Char :=
  if n < 0x10000 then unitEscape n
  else
    unitEscape (0xd800 + (n - 0x10000) / 0x400) ++ unitEscape (0xdc00 + (n - 0x10000) % 0x400)

def escaped (c : Char) : List Char :=
  if c = '"' ∨ c = '\\' then ['\\', c]
  else if Quoted.isAsciiPrintable c then [c]
  else if c = '\n' then ['\\', 'n']
  else if c = '\r' then ['\\', 'r']
  else if c = '\t' then ['\\', 't']
  else if c = '\x0c' then ['\\', 'f']
  else if c = '\x08' then ['\\', 'b']
  else wideEscape c.toNat

def quote (s : String) : String :=
  String.ofList ('"' :: s.toList.flatMap escaped ++ ['"'])

def escapedPoint : CodePoint → List Char
  | .char c => escaped c
  | .half n => unitEscape (CodePoint.firstHalf + n)

def quotePoints (ps : List CodePoint) : String :=
  String.ofList ('"' :: ps.flatMap escapedPoint ++ ['"'])

theorem quotePoints_ofText (s : String) : quotePoints (CodePoint.ofText s) = quote s := by
  rw [quotePoints, quote, CodePoint.ofText, List.flatMap_map]
  rfl

/-- A number. The values that JSON lacks are written as names. -/
def floatText : Double → String
  | .nan => "NaN"
  | .infinite negative => if negative then "-Infinity" else "Infinity"
  | x => x.text

def boolText (b : Bool) : String := if b then "true" else "false"

def keyText? : Value → Option String
  | .text s => some s
  | .code c => some c.text
  | .int n => Decimal.text? n
  | .float x => some (floatText x)
  | .bool b => some (boolText b)
  | .null => some "null"
  | _ => none

def bracketed (before after : String) (ts : List String) : String :=
  before ++ ",".intercalate ts ++ after

mutual

/-- A value on one line. -/
def write? : Value → Option String
  | .null => some "null"
  | .bool b => some (boolText b)
  | .int n => Decimal.text? n
  | .float x => some (floatText x)
  | .text s => some (quote s)
  | .code c => some (quote c.text)
  | .list vs | .tuple vs => (writeAll? vs).map (bracketed "[" "]")
  | .dict es => (writeEntries? es).map (bracketed "\x7b" "\x7d")
  | v => v.str?.map quote

def writeAll? : List Value → Option (List String)
  | [] => some []
  | v :: vs => do
    let t ← write? v
    let ts ← writeAll? vs
    return t :: ts

def writeEntries? : List (Value × Value) → Option (List String)
  | [] => some []
  | (k, v) :: es => do
    let k ← keyText? k
    let t ← write? v
    let ts ← writeEntries? es
    return (quote k ++ ":" ++ t) :: ts

end

end Json
end AccountInput
