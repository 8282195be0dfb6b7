import AccountInput.Text.Hex
import AccountInput.Text.Printable

namespace AccountInput
namespace Quoted

/-- The last `width` hexadecimal digits of a number. -/
def hexDigits : (width : Nat) → (n : Nat) → List Char
  | 0, _ => []
  | width + 1, n => hexDigits width (n / 16) ++ [Hex.digit n]

/-- An escape by number: two, four or eight digits, as many as the code point needs. -/
def numbered (n : Nat) : List Char :=
  if n < 0x100 then '\\' :: 'x' :: hexDigits 2 n
  else if n < 0x10000 then '\\' :: 'u' :: hexDigits 4 n
  else '\\' :: 'U' :: hexDigits 8 n

/-- The mark around content, which is `"` only where that saves an escape. -/
def mark (cs : List Char) : Char :=
  if cs.contains '\'' && !cs.contains '"' then '"' else '\''

/-- One character of the content, where `plain` says which ones stand for themselves. -/
def escaped (plain : Char → Bool) (around c : Char) : List Char :=
  if c = around ∨ c = '\\' then ['\\', c]
  else if c = '\t' then ['\\', 't']
  else if c = '\n' then ['\\', 'n']
  else if c = '\r' then ['\\', 'r']
  else if plain c then [c]
  else numbered c.toNat

def quote (plain : Char → Bool) (cs : List Char) : List Char :=
  let around := mark cs
  around :: cs.flatMap (escaped plain around) ++ [around]

def text (s : String) : String := String.ofList (quote Text.isPrintable s.toList)

def isAsciiPrintable (c : Char) : Bool := 0x20 ≤ c.toNat && c.toNat < 0x7f

/-- Bytes, read as the characters of their numbers, after a `b`. -/
def bytes (bs : List UInt8) : String :=
  String.ofList ('b' :: quote isAsciiPrintable (bs.map fun b => Char.ofNat b.toNat))

end Quoted
end AccountInput
