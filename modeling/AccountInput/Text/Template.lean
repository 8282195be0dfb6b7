import AccountInput.Number.Fixed
import AccountInput.Text.CodePoint
import AccountInput.Value.Equal
import AccountInput.Value.Number

namespace AccountInput
namespace Template

/-- What stands between the percent sign and the letter. -/
structure Options where
  alternate : Bool
  zeros : Bool
  left : Bool
  blank : Bool
  plus : Bool
  width : Nat
  precision : Option Nat

def Options.none : Options := ⟨false, false, false, false, false, 0, Option.none⟩

/-- The arguments that are left. -/
inductive Arguments where
  | ordered (rest : List Value)
  /-- A dictionary, and the value that the next directive without a name takes. -/
  | named (entries : List (Value × Value)) (next : Option Value)

def Arguments.next? : Arguments → Option (Value × Arguments)
  | .ordered (v :: rest) => some (v, .ordered rest)
  | .ordered [] => Option.none
  | .named es (some v) => some (v, .named es Option.none)
  | .named _ Option.none => Option.none

def Arguments.select? (name : String) : Arguments → Option Arguments
  | .ordered _ => Option.none
  | .named es _ => (Value.get? es name).map fun v => .named es (some v)

/-- Whether no argument was left over. A dictionary may hold more than a template names. -/
def Arguments.isDone : Arguments → Bool
  | .ordered rest => rest.isEmpty
  | .named .. => true

def flags (o : Options) : List Char → Options × List Char
  | '#' :: cs => flags { o with alternate := true } cs
  | '0' :: cs => flags { o with zeros := true } cs
  | '-' :: cs => flags { o with left := true } cs
  | ' ' :: cs => flags { o with blank := true } cs
  | '+' :: cs => flags { o with plus := true } cs
  | cs => (o, cs)

def isDigit (c : Char) : Bool := c.isDigit

/-- The decimal number at the beginning of a text; no digits are zero. -/
def leadingNumber (cs : List Char) : Nat × List Char :=
  (Decimal.ofDigits ((cs.takeWhile isDigit).map fun c => c.toNat - 48), cs.dropWhile isDigit)

/-- A width or precision, which a star takes from the arguments. -/
def measure? (args : Arguments) : List Char → Option (Int × Arguments × List Char)
  | '*' :: cs => do
    let (v, args) ← args.next?
    let n ← v.int?
    return (n, args, cs)
  | cs => some ((leadingNumber cs).1, args, (leadingNumber cs).2)

def widthOf (o : Options) (n : Int) : Options :=
  if n < 0 then { o with left := true, width := n.natAbs } else { o with width := n.toNat }

def precision? (o : Options) (args : Arguments) : List Char →
    Option (Options × Arguments × List Char)
  | '.' :: cs => do
    let (n, args, cs) ← measure? args cs
    return ({ o with precision := some n.toNat }, args, cs)
  | cs => some (o, args, cs)

/-- The name at the beginning of a directive: up to the matching parenthesis. -/
def name? : (fuel depth : Nat) → List Char → Option (List Char × List Char)
  | 0, _, _ | _, _, [] => Option.none
  | fuel + 1, depth, c :: cs =>
    if c = ')' ∧ depth = 0 then some ([], cs)
    else
      let depth := if c = '(' then depth + 1 else if c = ')' then depth - 1 else depth
      (name? fuel depth cs).map fun (n, rest) => (c :: n, rest)

/-- A body brought to the width, after a sign and a mark of its base. -/
def padded (o : Options) (sign mark body : List Char) (numeric : Bool) : List Char :=
  let size := sign.length + mark.length + body.length
  let fill := List.replicate (o.width - size)
  if o.left then sign ++ mark ++ body ++ fill ' '
  else if o.zeros && numeric then sign ++ mark ++ fill '0' ++ body
  else fill ' ' ++ sign ++ mark ++ body

def signOf (o : Options) (negative : Bool) : List Char :=
  if negative then ['-'] else if o.plus then ['+'] else if o.blank then [' '] else []

def wholeNumber? (v : Value) : Option Int :=
  match v with
  | .text _ | .code _ | .bytes .. => Option.none
  | _ => v.toInt.toOption

def based (o : Options) (base : Nat) (mark : List Char) (n : Int) : List Char :=
  let digits := Nat.toDigits base n.natAbs
  let body := Double.padLeft (o.precision.getD 0) '0' digits
  padded o (signOf o (n < 0)) (if o.alternate then mark else []) body true

def binaryNumber? : Value → Option Double
  | .float x => some x
  | .int n => finite? n
  | .bool b => finite? b.toNat
  | _ => Option.none
where
  /-- The number nearest to an integer that is not out of range. -/
  finite? (n : Int) : Option Double :=
    if (Double.ofInt n).isFinite then some (.ofInt n) else Option.none

def binary (o : Options) (kind : Char) (x : Double) : List Char :=
  let digits := o.precision.getD 6
  let body : List Char :=
    match x.magnitude? with
    | Option.none => if x.isNaN then "nan".toList else "inf".toList
    | some (num, den) =>
      if kind = 'f' then Double.placesText num den digits o.alternate
      else if kind = 'e' then Double.exponentNotation num den digits o.alternate
      else Double.generalText num den digits o.alternate
  padded o (signOf o x.isNegative) [] body true

def plain (o : Options) (s : String) : List Char :=
  let cs := match o.precision with
    | some n => s.toList.take n
    | Option.none => s.toList
  padded o [] [] cs false

/-- The single code point that a value is or numbers. Half of a character is one by its number. -/
def codePoint? (v : Value) : Option CodePoint :=
  match v.text?, v.int? with
  | some s, _ => if s.length = 1 then s.toList.head?.map .char else Option.none
  | _, some n => if 0 ≤ n then CodePoint.ofNat? n.toNat else Option.none
  | _, _ => Option.none

def single (o : Options) (p : CodePoint) : List CodePoint :=
  let fill := List.replicate (o.width - 1) (CodePoint.char ' ')
  if o.left then p :: fill else fill ++ [p]

/-- A text in ASCII alone. -/
def asciiOnly (s : String) : String :=
  String.ofList (s.toList.flatMap fun c =>
    if c.toNat < 0x80 then [c] else Quoted.numbered c.toNat)

def upperCase (cs : List Char) : List Char := cs.map Char.toUpper

/-- A value by the conversion of a letter to a text. -/
def convertText? (o : Options) (letter : Char) (v : Value) : Option (List Char) :=
  if letter = 's' then v.str?.map (plain o)
  else if letter = 'r' then v.repr?.map (plain o)
  else if letter = 'a' then v.repr?.map fun s => plain o (asciiOnly s)
  else if letter = 'd' ∨ letter = 'i' ∨ letter = 'u' then do
    let n ← wholeNumber? v
    let _ ← Decimal.text? n
    return based o 10 [] n
  else if letter = 'x' then v.int?.map (based o 16 ['0', 'x'])
  else if letter = 'X' then v.int?.map fun n => upperCase (based o 16 ['0', 'x'] n)
  else if letter = 'o' then v.int?.map (based o 8 ['0', 'o'])
  else if letter = 'e' ∨ letter = 'f' ∨ letter = 'g' then (binaryNumber? v).map (binary o letter)
  else if letter = 'E' ∨ letter = 'F' ∨ letter = 'G' then
    (binaryNumber? v).map fun x => upperCase (binary o letter.toLower x)
  else Option.none

def convert? (o : Options) (letter : Char) (v : Value) : Option (List CodePoint) :=
  if letter = 'c' then (codePoint? v).map (single o)
  else (convertText? o letter v).map (List.map .char)

/-- The letters that may stand before that of the conversion and mean nothing. -/
def dropSize : List Char → List Char
  | c :: cs => if c = 'h' ∨ c = 'l' ∨ c = 'L' then cs else c :: cs
  | [] => []

/-- A directive after its percent sign: its text, the arguments left and the characters after
it. -/
def directive? (args : Arguments) (cs : List Char) :
    Option (List CodePoint × Arguments × List Char) := do
  let (args, cs) ← match cs with
    | '(' :: cs => do
      let (n, cs) ← name? (cs.length + 1) 0 cs
      let args ← args.select? (String.ofList n)
      pure (args, cs)
    | cs => pure (args, cs)
  let (o, cs) := flags .none cs
  let (width, args, cs) ← measure? args cs
  let (o, args, cs) ← precision? (widthOf o width) args cs
  match dropSize cs with
  | '%' :: cs => return ([.char '%'], args, cs)
  | letter :: cs =>
    let (v, args) ← args.next?
    let text ← convert? o letter v
    return (text, args, cs)
  | [] => Option.none

/-- The rest of a template. Every step takes a character at least. -/
def fillFrom? : (fuel : Nat) → Arguments → List Char → Option (List CodePoint)
  | _, args, [] => if args.isDone then some [] else Option.none
  | 0, _, _ => Option.none
  | fuel + 1, args, '%' :: cs => do
    let (text, args, cs) ← directive? args cs
    let rest ← fillFrom? fuel args cs
    return text ++ rest
  | fuel + 1, args, c :: cs => (fillFrom? fuel args cs).map (.char c :: ·)

/-- What arguments give to a template: a single dictionary that is not empty gives them by name. -/
def Arguments.of : List Value → Arguments
  | [v] =>
    match v.entries? with
    | some (e :: es) => .named (e :: es) (some v)
    | _ => .ordered [v]
  | args => .ordered args

/-- The text of a template with its arguments. Without arguments it stands for itself. -/
def fill? (template : String) (args : List Value) : Option (List CodePoint) :=
  if args.isEmpty then some (CodePoint.ofText template)
  else fillFrom? template.length (.of args) template.toList

end Template
end AccountInput
