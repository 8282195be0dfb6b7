import AccountInput.Number.Decimal
import AccountInput.Pattern.Basic
import AccountInput.Text.Digit

namespace AccountInput
namespace Pattern

/-- The value of a digit below a base, if a token stands for one. -/
def Token.digit? (base : Nat) : Token → Option Nat
  | .plain c => (Text.hexDigit? c).filter (· < base)
  | .escaped _ => none

/-- Digits below a base at the front, at most a number of them, and what follows. -/
def digits (base : Nat) : (most : Nat) → List Token → List Nat × List Token
  | 0, ts => ([], ts)
  | _, [] => ([], [])
  | most + 1, t :: ts =>
    match t.digit? base with
    | none => ([], t :: ts)
    | some d =>
      let (ds, rest) := digits base most ts
      (d :: ds, rest)

def number (base : Nat) (ds : List Nat) : Nat := ds.foldl (fun n d => base * n + d) 0

def written (ts : List Token) : List Char :=
  ts.flatMap fun t =>
    match t with
    | .plain c => [c]
    | .escaped c => ['\\', c]

/-- The characters before the first plain one of a kind, which are not none, and what follows
it. -/
def until? (stop : Char) (ts : List Token) : Option (List Char × List Token) :=
  let (before, rest) := ts.span (· ≠ .plain stop)
  if before.isEmpty || rest.isEmpty then none else some (written before, rest.drop 1)

/-- A member of a set of characters: one character, if it is known which, or a kind of them. -/
inductive Member where
  | character (code : Option Nat)
  | kind

def isLetter (c : Char) : Bool := ('a' ≤ c && c ≤ 'z') || ('A' ≤ c && c ≤ 'Z')

/-- Whether a text has the form of the name of a character. -/
def isCharacterName : List Char → Bool
  | c :: cs@(_ :: _) =>
    isLetter c && cs.all fun c => isLetter c || (Text.asciiDigit? c).isSome || c == ' ' || c == '-'
  | _ => false

/-- The letters of escapes that stand for kinds of characters and for places. -/
def kindLetters : List Char := ['d', 'D', 's', 'S', 'w', 'W']
def placeLetters : List Char := ['A', 'b', 'B', 'Z']

def controls : List (Char × Nat) :=
  [('a', 7), ('b', 8), ('f', 12), ('n', 10), ('r', 13), ('t', 9), ('v', 11), ('\\', 92)]

/-- The largest character that octal digits may stand for. -/
def largestOctal : Nat := 255

/-- The character that a number of hexadecimal digits stands for. -/
def hex? (count : Nat) (ts : List Token) : Option (Member × List Token) :=
  let (ds, rest) := digits 16 count ts
  let n := number 16 ds
  if ds.length = count ∧ n ≤ 0x10ffff then some (.character (some n), rest) else none

/-- Whether an escape gives a character by its number or its name. In patterns of bytes only the
one with two digits does. -/
def isCoded (ofText : Bool) (c : Char) : Bool :=
  c == 'x' || (ofText && (c == 'u' || c == 'U' || c == 'N'))

def coded? (c : Char) (ts : List Token) : Option (Member × List Token) :=
  if c = 'N' then
    match ts with
    | .plain '\x7b' :: ts => do
      let (name, rest) ← until? '\x7d' ts
      if isCharacterName name then return (.character none, rest) else none
    | _ => none
  else hex? (if c = 'x' then 2 else if c = 'u' then 4 else 8) ts

/-- The character of octal digits, of which the first has been read. -/
def octal? (first : Nat) (ts : List Token) : Option (Member × List Token) :=
  let (ds, rest) := digits 8 2 ts
  let n := number 8 (first :: ds)
  if n ≤ largestOctal then some (.character (some n), rest) else none

/-- The member of a set that an escape stands for. -/
def setEscape? (ofText : Bool) (c : Char) (ts : List Token) : Option (Member × List Token) :=
  if c ∈ kindLetters then some (.kind, ts)
  else if isCoded ofText c then coded? c ts
  else
    match controls.lookup c, Text.asciiDigit? c with
    | some n, _ => some (.character (some n), ts)
    | none, some d => if d < 8 then octal? d ts else none
    | none, none => if isLetter c then none else some (.character (some c.toNat), ts)

def member? (ofText : Bool) (t : Token) (ts : List Token) : Option (Member × List Token) :=
  match t with
  | .plain c => some (.character (some c.toNat), ts)
  | .escaped c => setEscape? ofText c ts

/-- Whether a range may lead from one member to another. -/
def isRange : Member → Member → Bool
  | .character (some low), .character (some high) => low ≤ high
  | .character _, .character _ => true
  | _, _ => false

/-- What follows the members of a set. A bracket in the first place is a member. -/
def afterMembers? (ofText : Bool) : (fuel : Nat) → (filled : Bool) → List Token →
    Option (List Token)
  | 0, _, _ | _, _, [] => none
  | fuel + 1, filled, t :: ts =>
    if filled && t == .plain ']' then some ts
    else do
      let (low, ts) ← member? ofText t ts
      match ts with
      | .plain '-' :: ts =>
        let u ← ts.head?
        if u = .plain ']' then return ts.drop 1
        let (high, ts) ← member? ofText u (ts.drop 1)
        if isRange low high then afterMembers? ofText fuel true ts else none
      | ts => afterMembers? ofText fuel true ts

/-- What follows a set, after its first bracket. -/
def afterSet? (ofText : Bool) (ts : List Token) : Option (List Token) :=
  let ts := if ts.head? = some (.plain '^') then ts.drop 1 else ts
  afterMembers? ofText ts.length false ts

/-- What a group matched, once more, by the digits of its number. -/
def reference? (s : Scope) (ds : List Nat) (rest : List Token) : Option (Piece × List Token) :=
  (s.again? (Decimal.ofDigits ds)).map fun p => (p, rest)

/-- What an escape of digits stands for: a character if they are three octal ones, else a
group. -/
def numbered? (s : Scope) (first : Nat) (ts : List Token) : Option (Piece × List Token) :=
  if first < 8 ∧ (digits 8 2 ts).1.length = 2 then
    (octal? first ts).map fun (_, rest) => (.single .one, rest)
  else
    let (ds, rest) := digits 10 1 ts
    reference? s (first :: ds) rest

def escape? (s : Scope) (c : Char) (ts : List Token) : Option (Piece × List Token) :=
  if c ∈ placeLetters then some (.anchor, ts)
  else if c ∈ kindLetters || (controls.lookup c).isSome then some (.single .one, ts)
  else if isCoded s.ofText c then (coded? c ts).map fun (_, rest) => (.single .one, rest)
  else
    match Text.asciiDigit? c with
    | some 0 => some (.single .one, (digits 8 2 ts).2)
    | some d => numbered? s d ts
    | none => if isLetter c then none else some (.single .one, ts)

end Pattern
end AccountInput
