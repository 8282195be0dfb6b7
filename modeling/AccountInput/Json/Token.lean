import AccountInput.Number.Decimal
import AccountInput.Number.Double
import AccountInput.Text.Digit
import AccountInput.Text.Wide

namespace AccountInput
namespace Json

/-- A token. Numbers with a point or an exponent are binary64, others are integers. -/
inductive Token where
  | openList
  | closeList
  | openObject
  | closeObject
  | comma
  | colon
  | text (s : String)
  | int (n : Int)
  /-- An integer of too many digits to be read. -/
  | longInt
  | float (x : Double)
  | null
  | bool (b : Bool)
  /-- Something that is no token. -/
  | bad
deriving DecidableEq

def isBlank (c : Char) : Bool := c = ' ' || c = '\t' || c = '\n' || c = '\r'

def shortEscape? : Char → Option Nat
  | '"' => some 0x22
  | '\\' => some 0x5c
  | '/' => some 0x2f
  | 'b' => some 0x08
  | 'f' => some 0x0c
  | 'n' => some 0x0a
  | 'r' => some 0x0d
  | 't' => some 0x09
  | _ => none

def hex4? (a b c d : Char) : Option Nat := do
  let a ← Text.hexDigit? a
  let b ← Text.hexDigit? b
  let c ← Text.hexDigit? c
  let d ← Text.hexDigit? d
  return ((a * 16 + b) * 16 + c) * 16 + d

/-- The code units between quotation marks, and how many characters they and the closing mark
take. Control characters must be escaped. -/
def units? : List Char → Option (List Nat × Nat)
  | [] => none
  | '"' :: _ => some ([], 1)
  | '\\' :: 'u' :: a :: b :: c :: d :: rest => do
    let n ← hex4? a b c d
    let (ns, k) ← units? rest
    return (n :: ns, k + 6)
  | '\\' :: e :: rest => do
    let n ← shortEscape? e
    let (ns, k) ← units? rest
    return (n :: ns, k + 2)
  | c :: rest =>
    if c.toNat < 0x20 then none
    else do
      let (ns, k) ← units? rest
      return (c.toNat :: ns, k + 1)

def isDigit (c : Char) : Bool := '0' ≤ c && c ≤ '9'

def digitsValue (ds : List Char) : Nat := Decimal.ofDigits (ds.map fun c => c.toNat - '0'.toNat)

/-- The digits before a point: a zero on its own, or digits that begin with none. -/
def wholeDigits (cs : List Char) : List Char :=
  match cs with
  | '0' :: _ => ['0']
  | cs => cs.takeWhile isDigit

/-- The digits after a point; empty where no fraction follows. -/
def fractionDigits : List Char → List Char
  | '.' :: rest => rest.takeWhile isDigit
  | _ => []

/-- An exponent: its sign, its digits, and how many characters it takes with its mark. -/
def exponentDigits : List Char → Option (Bool × List Char × Nat)
  | e :: rest =>
    if e = 'e' ∨ e = 'E' then
      let (negative, body, signs) :=
        match rest with
        | '-' :: r => (true, r, 1)
        | '+' :: r => (false, r, 1)
        | r => (false, r, 0)
      let ds := body.takeWhile isDigit
      if ds.isEmpty then none else some (negative, ds, 1 + signs + ds.length)
    else none
  | [] => none

/-- A number without its sign, and how many characters it takes. -/
def unsignedNumber (negative : Bool) (cs : List Char) : Option (Token × Nat) :=
  let whole := wholeDigits cs
  if whole.isEmpty then none
  else
    let afterWhole := cs.drop whole.length
    let fraction := fractionDigits afterWhole
    let taken := whole.length + (if fraction.isEmpty then 0 else 1 + fraction.length)
    match exponentDigits (cs.drop taken) with
    | none =>
      if fraction.isEmpty then
        let n := (digitsValue whole : Int)
        if whole.length ≤ Decimal.digitLimit then
          some (.int (if negative then -n else n), taken)
        else some (.longInt, taken)
      else
        some (.float (Double.ofDecimal negative (digitsValue (whole ++ fraction))
          (-(fraction.length : Int))), taken)
    | some (down, ds, k) =>
      let e := (digitsValue ds : Int)
      some (.float (Double.ofDecimal negative (digitsValue (whole ++ fraction))
        ((if down then -e else e) - fraction.length)), taken + k)

def words : List (List Char × Token) :=
  [("null".toList, .null), ("true".toList, .bool true), ("false".toList, .bool false),
    ("NaN".toList, .float .nan), ("Infinity".toList, .float (.infinite false)),
    ("-Infinity".toList, .float (.infinite true))]

def word? (cs : List Char) : Option (Token × Nat) :=
  (words.find? fun w => w.1.isPrefixOf cs).map fun w => (w.2, w.1.length)

def number? : List Char → Option (Token × Nat)
  | '-' :: rest => (unsignedNumber true rest).map fun (t, k) => (t, k + 1)
  | cs => unsignedNumber false cs

/-- The token that begins with a given character, and how many further characters it takes. -/
def lexeme (c : Char) (rest : List Char) : Token × Nat :=
  match c with
  | '[' => (.openList, 0)
  | ']' => (.closeList, 0)
  | '{' => (.openObject, 0)
  | '}' => (.closeObject, 0)
  | ',' => (.comma, 0)
  | ':' => (.colon, 0)
  | '"' =>
    match units? rest with
    | some (ns, k) => (.text (String.ofList (Text.ofPairs ns)), k)
    | none => (.bad, 0)
  | c =>
    match (word? (c :: rest)).orElse fun _ => number? (c :: rest) with
    | some (t, k) => (t, k - 1)
    | none => (.bad, 0)

/-- The tokens of a text, the first `skipped` characters of which belong to an earlier one. -/
def tokensAfter : (skipped : Nat) → List Char → List Token
  | _, [] => []
  | 0, c :: rest =>
    if isBlank c then tokensAfter 0 rest
    else
      match lexeme c rest with
      | (.bad, _) => [.bad]
      | (t, k) => t :: tokensAfter k rest
  | k + 1, _ :: rest => tokensAfter k rest

def tokens (cs : List Char) : List Token := tokensAfter 0 cs

end Json
end AccountInput
