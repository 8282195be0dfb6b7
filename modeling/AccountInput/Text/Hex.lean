import AccountInput.Text.Digit

namespace AccountInput
namespace Hex

def digit (n : Nat) : Char := Nat.digitChar (n % 16)

def ofByte (b : UInt8) : List Char := [digit (b.toNat / 16), digit b.toNat]

def encode (bs : List UInt8) : List Char := bs.flatMap ofByte

def text (bs : List UInt8) : String := String.ofList (encode bs)

def isGap (c : Char) : Bool :=
  c.toNat == 0x20 || (0x09 ≤ c.toNat && c.toNat ≤ 0x0d)

/-- Pairs of digits in either case, with blanks allowed between pairs. A failure names the
position of the first character that is no digit where one is due; the end of the text counts. -/
def decodeAt (position : Nat) : List Char → Except Nat (List UInt8)
  | [] => .ok []
  | a :: rest =>
    if isGap a then decodeAt (position + 1) rest
    else
      match Text.hexDigit? a with
      | none => .error position
      | some high =>
        match rest with
        | [] => .error (position + 1)
        | b :: rest =>
          match Text.hexDigit? b with
          | none => .error (position + 1)
          | some low => (decodeAt (position + 2) rest).map (UInt8.ofNat (16 * high + low) :: ·)

/-- Reads pairs of digits. A character outside ASCII is blamed before any other. -/
def decode (cs : List Char) : Except Nat (List UInt8) :=
  match cs.findIdx? fun c => 0x80 ≤ c.toNat with
  | some i => .error i
  | none => decodeAt 0 cs

/-- A text without a leading `0x` or `0X`. -/
def dropMark : List Char → List Char
  | '0' :: 'x' :: rest => rest
  | '0' :: 'X' :: rest => rest
  | cs => cs

/-- Even out a text of digits with a leading zero. -/
def evened (cs : List Char) : List Char :=
  if cs.length % 2 = 1 then '0' :: cs else cs

end Hex
end AccountInput
