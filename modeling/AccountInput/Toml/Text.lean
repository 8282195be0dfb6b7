import AccountInput.Text.Digit

namespace AccountInput
namespace Toml

def isBlank (c : Char) : Bool := c = ' ' || c = '\t'

def isBlankOrNewline (c : Char) : Bool := isBlank c || c = '\n'

/-- A control character that a line may not hold. -/
def isIllegal (c : Char) : Bool := (c.toNat < 0x20 && c != '\t') || c.toNat = 0x7f

/-- A control character that may not stand even between lines. -/
def isIllegalInLines (c : Char) : Bool := isIllegal c && c != '\n'

def skipBlanks (cs : List Char) : List Char := cs.dropWhile isBlank

/-- What follows a comment, if there is one: the end of the line or of the text. -/
def skipComment? : List Char → Option (List Char)
  | '#' :: cs =>
    let line := cs.takeWhile (· ≠ '\n')
    if line.any isIllegal then none else some (cs.dropWhile (· ≠ '\n'))
  | cs => some cs

/-- What follows blanks, line ends and comments. Each comment and the blanks before it take at
least one character. -/
def skipFiller? : (fuel : Nat) → List Char → Option (List Char)
  | 0, cs => some cs
  | fuel + 1, cs =>
    match cs.dropWhile isBlankOrNewline with
    | '#' :: rest => (skipComment? ('#' :: rest)).bind (skipFiller? fuel)
    | rest => some rest

def shortEscape? : Char → Option Char
  | 'b' => some '\x08'
  | 't' => some '\t'
  | 'n' => some '\n'
  | 'f' => some '\x0c'
  | 'r' => some '\r'
  | '"' => some '"'
  | '\\' => some '\\'
  | _ => none

/-- The character that hexadecimal digits number; none for a number that is no character. -/
def numbered? (ds : List Char) : Option Char := do
  let ns ← ds.mapM Text.hexDigit?
  let n := ns.foldl (fun n d => 16 * n + d) 0
  if n.isValidChar then some (Char.ofNat n) else none

/-- The text of an escape, without its backslash, and what follows it. In a text of several lines
a backslash before the end of a line takes the blanks and line ends after it. -/
def escape? (lines : Bool) : List Char → Option (List Char × List Char)
  | 'u' :: a :: b :: c :: d :: rest => (numbered? [a, b, c, d]).map fun x => ([x], rest)
  | 'U' :: a :: b :: c :: d :: e :: f :: g :: h :: rest =>
    (numbered? [a, b, c, d, e, f, g, h]).map fun x => ([x], rest)
  | c :: rest =>
    if lines && isBlankOrNewline c then
      match (c :: rest).dropWhile isBlank with
      | [] => some ([], [])
      | '\n' :: rest => some ([], rest.dropWhile isBlankOrNewline)
      | _ => none
    else (shortEscape? c).map fun x => ([x], rest)
  | [] => none

/-- The rest of a basic text on one line, and what follows its closing mark. -/
def basic? : (fuel : Nat) → List Char → Option (List Char × List Char)
  | 0, _ | _, [] => none
  | _ + 1, '"' :: rest => some ([], rest)
  | fuel + 1, '\\' :: rest => do
    let (text, rest) ← escape? false rest
    let (more, rest) ← basic? fuel rest
    return (text ++ more, rest)
  | fuel + 1, c :: rest =>
    if isIllegal c then none
    else (basic? fuel rest).map fun (more, rest) => (c :: more, rest)

def basicLines? : (fuel : Nat) → List Char → Option (List Char × List Char)
  | 0, _ | _, [] => none
  | _ + 1, '"' :: '"' :: '"' :: rest => some ([], rest)
  | fuel + 1, '\\' :: rest => do
    let (text, rest) ← escape? true rest
    let (more, rest) ← basicLines? fuel rest
    return (text ++ more, rest)
  | fuel + 1, c :: rest =>
    if isIllegalInLines c then none
    else (basicLines? fuel rest).map fun (more, rest) => (c :: more, rest)

def literal? : List Char → Option (List Char × List Char)
  | [] => none
  | '\'' :: rest => some ([], rest)
  | c :: rest =>
    if isIllegal c then none else (literal? rest).map fun (more, rest) => (c :: more, rest)

def literalLines? : List Char → Option (List Char × List Char)
  | [] => none
  | '\'' :: '\'' :: '\'' :: rest => some ([], rest)
  | c :: rest =>
    if isIllegalInLines c then none
    else (literalLines? rest).map fun (more, rest) => (c :: more, rest)

def dropNewline : List Char → List Char
  | '\n' :: rest => rest
  | cs => cs

/-- One or two marks right after the closing ones belong to the text. -/
def extraMarks (mark : Char) (text rest : List Char) : List Char × List Char :=
  match rest with
  | a :: b :: more =>
    if a = mark ∧ b = mark then (text ++ [mark, mark], more)
    else if a = mark then (text ++ [mark], b :: more)
    else (text, rest)
  | [a] => if a = mark then (text ++ [mark], []) else (text, rest)
  | [] => (text, [])

/-- A text in quotation marks of any sort, and what follows it; `cs` begins with a mark. -/
def quoted? (cs : List Char) : Option (List Char × List Char) :=
  match cs with
  | '"' :: '"' :: '"' :: rest =>
    (basicLines? (cs.length + 1) (dropNewline rest)).map fun (t, rest) => extraMarks '"' t rest
  | '"' :: rest => basic? (cs.length + 1) rest
  | '\'' :: '\'' :: '\'' :: rest =>
    (literalLines? (dropNewline rest)).map fun (t, rest) => extraMarks '\'' t rest
  | '\'' :: rest => literal? rest
  | _ => none

def quotedLine? (cs : List Char) : Option (List Char × List Char) :=
  match cs with
  | '"' :: rest => basic? (cs.length + 1) rest
  | '\'' :: rest => literal? rest
  | _ => none

def isBare (c : Char) : Bool := c.isAlphanum || c = '-' || c = '_'

def startsKey (c : Char) : Bool := isBare c || c = '"' || c = '\''

def keyPart? (cs : List Char) : Option (String × List Char) :=
  match cs.takeWhile isBare with
  | [] => (quotedLine? cs).map fun (t, rest) => (String.ofList t, rest)
  | bare => some (String.ofList bare, cs.dropWhile isBare)

def key? : (fuel : Nat) → List Char → Option (List String × List Char)
  | 0, _ => none
  | fuel + 1, cs => do
    let (part, rest) ← keyPart? cs
    match skipBlanks rest with
    | '.' :: rest =>
      let (others, rest) ← key? fuel (skipBlanks rest)
      return (part :: others, rest)
    | rest => return ([part], rest)

end Toml
end AccountInput
