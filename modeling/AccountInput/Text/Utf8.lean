namespace AccountInput
namespace Utf8

def encode (cs : List Char) : List UInt8 := cs.flatMap String.utf8EncodeChar

def ofString (s : String) : List UInt8 := encode s.toList

def isContinuation (b : UInt8) : Bool := 0x80 ≤ b && b ≤ 0xbf

/-- The second bytes that a lead byte of a longer form admits: those that spell no shorter form,
no surrogate and nothing above the last code point. -/
def admitsSecond (lead b : UInt8) : Bool :=
  if lead = 0xe0 then 0xa0 ≤ b && b ≤ 0xbf
  else if lead = 0xed then 0x80 ≤ b && b ≤ 0x9f
  else if lead = 0xf0 then 0x90 ≤ b && b ≤ 0xbf
  else if lead = 0xf4 then 0x80 ≤ b && b ≤ 0x8f
  else isContinuation b

/-- How many bytes a lead byte announces; none for a byte that leads nothing. -/
def announced (lead : UInt8) : Nat :=
  if lead < 0x80 then 1
  else if 0xc2 ≤ lead ∧ lead ≤ 0xdf then 2
  else if 0xe0 ≤ lead ∧ lead ≤ 0xef then 3
  else if 0xf0 ≤ lead ∧ lead ≤ 0xf4 then 4
  else 0

def low (b : UInt8) : Nat := b.toNat % 64

/-- The piece that a byte starts: its character, if the bytes after it finish one, and how many of
those bytes belong to the piece. -/
def first (a : UInt8) (rest : List UInt8) : Option Char × Nat :=
  match announced a, rest with
  | 1, _ => (some (Char.ofNat a.toNat), 0)
  | 2, b :: _ =>
    if isContinuation b then (some (Char.ofNat (a.toNat % 32 * 64 + low b)), 1) else (none, 0)
  | 3, b :: rest =>
    if admitsSecond a b then
      match rest with
      | c :: _ =>
        if isContinuation c then
          (some (Char.ofNat ((a.toNat % 16 * 64 + low b) * 64 + low c)), 2)
        else (none, 1)
      | [] => (none, 1)
    else (none, 0)
  | 4, b :: rest =>
    if admitsSecond a b then
      match rest with
      | c :: rest =>
        if isContinuation c then
          match rest with
          | d :: _ =>
            if isContinuation d then
              (some (Char.ofNat (((a.toNat % 8 * 64 + low b) * 64 + low c) * 64 + low d)), 3)
            else (none, 2)
          | [] => (none, 2)
        else (none, 1)
      | [] => (none, 1)
    else (none, 0)
  | _, _ => (none, 0)

/-- The character that stands for what is none. -/
def replacement : Char := Char.ofNat 0xfffd

/-- Whether three bytes spell half of a surrogate pair. -/
def isHalf (a b c : UInt8) : Bool := a = 0xed && 0xa0 ≤ b && b ≤ 0xbf && isContinuation c

/-- The piece that a byte starts, where half of a surrogate pair is let through, as a replacement
character. -/
def firstOrHalf (a : UInt8) (rest : List UInt8) : Option Char × Nat :=
  match rest with
  | b :: c :: _ => if isHalf a b c then (some replacement, 2) else first a rest
  | _ => first a rest

/-- The pieces of a byte string by what a byte starts, the first `skipped` bytes of which belong to
an earlier one. -/
def piecesAfter (start : UInt8 → List UInt8 → Option Char × Nat) :
    (skipped : Nat) → List UInt8 → List (Option Char)
  | _, [] => []
  | 0, a :: rest => (start a rest).1 :: piecesAfter start (start a rest).2 rest
  | k + 1, _ :: rest => piecesAfter start k rest

/-- The characters of a byte string in order, with `none` for each maximal piece that starts a
character and does not finish it, and for each byte that starts none. -/
def pieces (bs : List UInt8) : List (Option Char) := piecesAfter first 0 bs

/-- The text of a byte string that is UTF-8 throughout. -/
def decode? (bs : List UInt8) : Option (List Char) := (pieces bs).mapM id

def toString? (bs : List UInt8) : Option String := (decode? bs).map String.ofList

/-- A byte string that is UTF-8 throughout: the bytes of some characters. -/
def IsValid (bs : List UInt8) : Prop := ∃ cs, encode cs = bs

/-- The text of any byte string, a replacement character for each piece that is no character. -/
def decodeReplacing (bs : List UInt8) : List Char :=
  (pieces bs).map (·.getD replacement)

/-- The text of a byte string that is UTF-8 but for halves of surrogate pairs. -/
def decodeWithHalves? (bs : List UInt8) : Option (List Char) :=
  (piecesAfter firstOrHalf 0 bs).mapM id

end Utf8
end AccountInput
