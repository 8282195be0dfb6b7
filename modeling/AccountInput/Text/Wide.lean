import AccountInput.Number.Endian
import AccountInput.Text.Utf8

namespace AccountInput
namespace Text

/-- The units of a byte string, each of a given width; none if bytes are left over. -/
def units? (number : List UInt8 → Nat) : (width : Nat) → (fuel : Nat) → List UInt8 →
    Option (List Nat)
  | _, _, [] => some []
  | _, 0, _ => none
  | width, fuel + 1, bs =>
    if bs.length < width then none
    else (units? number width fuel (bs.drop width)).map (number (bs.take width) :: ·)

/-- The units of two bytes, the low or the high byte first. -/
def pairs? (lowFirst : Bool) (bs : List UInt8) : Option (List Nat) :=
  units? (if lowFirst then ofLittleEndian else ofBigEndian) 2 bs.length bs

def quads? (lowFirst : Bool) (bs : List UInt8) : Option (List Nat) :=
  units? (if lowFirst then ofLittleEndian else ofBigEndian) 4 bs.length bs

def isHighSurrogate (n : Nat) : Bool := 0xd800 ≤ n && n < 0xdc00

def isLowSurrogate (n : Nat) : Bool := 0xdc00 ≤ n && n < 0xe000

/-- The character of a unit on its own; half of a pair is replaced. -/
def loneUnit (n : Nat) : Char :=
  if isHighSurrogate n || isLowSurrogate n then Utf8.replacement else Char.ofNat n

/-- The characters of units of two bytes, where a pair of surrogates is one character. -/
def ofPairs : List Nat → List Char
  | [] => []
  | [n] => [loneUnit n]
  | high :: low :: rest =>
    if isHighSurrogate high && isLowSurrogate low then
      Char.ofNat (0x10000 + (high - 0xd800) * 0x400 + (low - 0xdc00)) :: ofPairs rest
    else loneUnit high :: ofPairs (low :: rest)

def ofQuads? (ns : List Nat) : Option (List Char) :=
  ns.mapM fun n => if n < 0x110000 then some (loneUnit n) else none

def utf16? (lowFirst : Bool) (bs : List UInt8) : Option (List Char) :=
  (pairs? lowFirst bs).map ofPairs

def utf32? (lowFirst : Bool) (bs : List UInt8) : Option (List Char) :=
  (quads? lowFirst bs).bind ofQuads?

end Text
end AccountInput
