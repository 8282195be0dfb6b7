namespace AccountInput
namespace Pattern

/-- A character that stands for itself or for an operator, or one after a backslash. -/
inductive Token where
  | plain (c : Char)
  | escaped (c : Char)
deriving DecidableEq

/-- The tokens of a source. A backslash does not stand at its end. -/
def tokens? : List Char → Option (List Token)
  | [] => some []
  | c :: rest =>
    if c ≠ '\\' then (tokens? rest).map (Token.plain c :: ·)
    else
      match rest with
      | [] => none
      | d :: rest => (tokens? rest).map (Token.escaped d :: ·)

/-- The number of characters, from the least to the most, that a part of a pattern matches. -/
structure Width where
  least : Nat
  most : Nat
deriving DecidableEq

namespace Width

/-- A number that stands for all from it on. -/
def unbounded : Nat := 18446744073709551616

def of (least most : Nat) : Width := ⟨min least unbounded, min most unbounded⟩

def zero : Width := ⟨0, 0⟩
def one : Width := ⟨1, 1⟩

def append (v w : Width) : Width := of (v.least + w.least) (v.most + w.most)

def either (v w : Width) : Width := ⟨min v.least w.least, max v.most w.most⟩

/-- The width of a part that is repeated between two numbers of times, or without end. -/
def times (w : Width) (least : Nat) (most : Option Nat) : Width :=
  of (w.least * least) (w.most * most.getD unbounded)

/-- Whether a part can be looked for backwards: it has one width, and that is not too large. -/
def isFixed (w : Width) : Bool := w.least == w.most && w.least < UInt32.size

end Width

/-- A part of a pattern, by what may be done with it. An anchor cannot be repeated, and what is
repeated cannot be repeated once more. -/
inductive Piece where
  | anchor
  | repeated (w : Width)
  | single (w : Width)

def Piece.width : Piece → Width
  | .anchor => .zero
  | .repeated w | .single w => w

/-- The modes of a pattern. -/
inductive Mode where
  | template
  | ignoreCase
  | locale
  | multiLine
  | dotAll
  | unicode
  | verbose
  | ascii
deriving DecidableEq

namespace Mode

/-- Every mode, in the order in which they are written. -/
def all : List Mode :=
  [template, ignoreCase, locale, multiLine, dotAll, unicode, verbose, ascii]

def letter : Mode → Char
  | template => 't'
  | ignoreCase => 'i'
  | locale => 'L'
  | multiLine => 'm'
  | dotAll => 's'
  | unicode => 'u'
  | verbose => 'x'
  | ascii => 'a'

def ofLetter? (c : Char) : Option Mode := all.find? fun m => m.letter = c

def name : Mode → String
  | template => "TEMPLATE"
  | ignoreCase => "IGNORECASE"
  | locale => "LOCALE"
  | multiLine => "MULTILINE"
  | dotAll => "DOTALL"
  | unicode => "UNICODE"
  | verbose => "VERBOSE"
  | ascii => "ASCII"

/-- Whether a mode says which characters count as letters. -/
def isAlphabet (m : Mode) : Bool := m == ascii || m == locale || m == unicode

/-- Whether a mode may be set within a pattern of texts, or one of bytes. -/
def isFor (ofText : Bool) (m : Mode) : Bool := if ofText then m != locale else m != unicode

end Mode

/-- What stands before a place in a pattern. -/
structure Scope where
  /-- Whether the pattern is one of texts, and not of bytes. -/
  ofText : Bool
  /-- The widths of the groups, in the order of their opening; none of one that is still open. -/
  groups : List (Option Width)
  /-- The names of groups, and their numbers. -/
  names : List (List Char × Nat)
  /-- The groups on which something depends, which may follow. -/
  awaited : List Nat
  /-- Within a part that is looked for backwards, the number of the first group that is opened in
  it. -/
  behind : Option Nat
  modes : List Mode

namespace Scope

def start (ofText : Bool) : Scope := ⟨ofText, [], [], [], none, []⟩

/-- The number that the next group has. Groups are counted from one. -/
def next (s : Scope) : Nat := s.groups.length + 1

def width? (s : Scope) : Nat → Option Width
  | 0 => none
  | n + 1 => (s.groups[n]?).join

def number? (s : Scope) (name : List Char) : Option Nat := s.names.lookup name

/-- The scope in a group. No two groups have one name. -/
def opened? (s : Scope) : Option (List Char) → Option Scope
  | none => some { s with groups := s.groups ++ [none] }
  | some name =>
    match s.number? name with
    | some _ => none
    | none => some { s with groups := s.groups ++ [none], names := (name, s.next) :: s.names }

def closed (s : Scope) (n : Nat) (w : Width) : Scope :=
  { s with groups := s.groups.set (n - 1) (some w) }

/-- Whether a part that is looked for backwards may depend on a group: one that was closed before
it. -/
def isSettled (s : Scope) (n : Nat) : Bool :=
  match s.behind with
  | none => true
  | some first => (s.width? n).isSome && n < first

/-- What a group matched, once more. -/
def again? (s : Scope) (n : Nat) : Option Piece :=
  if s.isSettled n then (s.width? n).map .single else none

end Scope
end Pattern
end AccountInput
