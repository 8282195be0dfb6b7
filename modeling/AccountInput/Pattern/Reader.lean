import AccountInput.Pattern.Escape
import AccountInput.Text.Identifier
import AccountInput.Text.Numeral

namespace AccountInput
namespace Pattern

/-- The numbers of times that a repeated part may occur; there may be no largest. -/
structure Repeat where
  least : Nat
  most : Option Nat

/-- No number of times is as large as this. -/
def Repeat.limit : Nat := 4294967295

/-- The repeat of two numbers in digits, either of which may be left out. -/
def Repeat.ofDigits? (low high : List Nat) : Option Repeat :=
  let least := Decimal.ofDigits low
  let most := Decimal.ofDigits high
  if Repeat.limit ≤ least then none
  else if high.isEmpty then some ⟨least, none⟩
  else if most < Repeat.limit ∧ least ≤ most then some ⟨least, some most⟩
  else none

/-- The digits of the two numbers between braces, after the first brace. Braces in any other form
stand for themselves. -/
def braces? (ts : List Token) : Option (List Nat × List Nat × List Token) :=
  match digits 10 ts.length ts with
  | (low, .plain ',' :: rest) =>
    match digits 10 rest.length rest with
    | (high, .plain '\x7d' :: rest) => some (low, high, rest)
    | _ => none
  | (low, .plain '\x7d' :: rest) => if low.isEmpty then none else some (low, low, rest)
  | _ => none

/-- What an operator that repeats stands for, and what follows it; nothing if a character is no
such operator. The repeat itself is missing if its numbers are bad. -/
def operator? (c : Char) (ts : List Token) : Option (Option Repeat × List Token) :=
  if c = '*' then some (some ⟨0, none⟩, ts)
  else if c = '+' then some (some ⟨1, none⟩, ts)
  else if c = '?' then some (some ⟨0, some 1⟩, ts)
  else if c = '\x7b' then
    (braces? ts).map fun (low, high, rest) => (Repeat.ofDigits? low high, rest)
  else none

/-- What follows the mark of a repeat that takes as little, or gives back nothing. -/
def afterMark : List Token → List Token
  | .plain '?' :: ts | .plain '+' :: ts => ts
  | ts => ts

/-- The pieces of a sequence, the last one first, after a repeat of the last one. -/
def repeated? (s : Scope) (r : Repeat) : List Piece → Option (List Piece)
  | .single w :: ps =>
    if .template ∈ s.modes then none else some (.repeated (w.times r.least r.most) :: ps)
  | _ => none

def widthOf (ps : List Piece) : Width := ps.foldl (fun w p => p.width.append w) .zero

/-- The blanks and comments that patterns may have between their parts. -/
def isGap (c : Char) : Bool := c == ' ' || (9 ≤ c.toNat && c.toNat ≤ 13)

def afterLine (ts : List Token) : List Token := (ts.dropWhile (· ≠ .plain '\n')).drop 1

/-- The modes of letters at the front, and what follows them. -/
def modes : List Token → List Mode × List Token
  | .plain c :: ts =>
    match Mode.ofLetter? c with
    | some m =>
      let (ms, rest) := modes ts
      (m :: ms, rest)
    | none => ([], .plain c :: ts)
  | ts => ([], ts)

/-- What modes between a question mark and a colon or a parenthesis do: they hold for the whole
pattern, or some are set and others unset for a group. -/
inductive ModeChange where
  | whole (ms : List Mode)
  | within (set unset : List Mode)

def areSettable (ofText : Bool) (ms : List Mode) : Bool :=
  ms.all (Mode.isFor ofText) && ((ms.filter Mode.isAlphabet).eraseDups.length ≤ 1)

/-- The change of modes that a source begins with, and what follows it. -/
def modeChange? (ofText : Bool) (ts : List Token) : Option (ModeChange × List Token) :=
  let (set, ts) := modes ts
  if areSettable ofText set then
    match set, ts with
    | _ :: _, .plain ')' :: ts => some (.whole set, ts)
    | _ :: _, .plain ':' :: ts =>
      if .template ∈ set then none else some (.within set [], ts)
    | _, .plain '-' :: ts =>
      match modes ts with
      | (unset@(_ :: _), .plain ':' :: ts) =>
        if .template ∈ set ++ unset || unset.any Mode.isAlphabet || set.any (· ∈ unset) then none
        else some (.within set unset, ts)
      | _ => none
    | _, _ => none
  else none

def name? (stop : Char) (ts : List Token) : Option (List Char × List Token) :=
  (until? stop ts).filter fun (name, _) => Text.isName name

/-- The number of the group on which a part depends, by its name or its digits, and the scope in
which that group is awaited. -/
def condition? (s : Scope) (text : List Char) : Option (Nat × Scope) :=
  if Text.isName text then (s.number? text).map fun n => (n, s)
  else
    match Numeral.decimal? text with
    | some (.ofNat n) => if n = 0 then none else some (n, { s with awaited := n :: s.awaited })
    | _ => none

def afterClose? : List Token → Option (List Token)
  | .plain ')' :: ts => some ts
  | _ => none

/-- How the content of a group counts. -/
inductive Group where
  /-- A group with a number, and perhaps a name. -/
  | counted (name : Option (List Char))
  /-- A group of which nothing is kept. -/
  | uncounted
  /-- What must follow a place, or must not. -/
  | ahead
  /-- What must stand before a place, or must not. -/
  | behind

/-- The kind of a group that begins after its parenthesis, whether gaps count in it, and what
follows. -/
def group? (s : Scope) (verbose : Bool) : List Token → Option (Group × Bool × List Token)
  | .plain '?' :: .plain 'P' :: .plain '<' :: ts =>
    (name? '>' ts).map fun (name, ts) => (.counted (some name), verbose, ts)
  | .plain '?' :: .plain ':' :: ts | .plain '?' :: .plain '>' :: ts =>
    some (.uncounted, verbose, ts)
  | .plain '?' :: .plain '=' :: ts | .plain '?' :: .plain '!' :: ts => some (.ahead, verbose, ts)
  | .plain '?' :: .plain '<' :: .plain '=' :: ts | .plain '?' :: .plain '<' :: .plain '!' :: ts =>
    some (.behind, verbose, ts)
  | .plain '?' :: ts =>
    match modeChange? s.ofText ts with
    | some (.within set unset, ts) =>
      some (.uncounted, (verbose || .verbose ∈ set) && .verbose ∉ unset, ts)
    | _ => none
  | ts => some (.counted none, verbose, ts)

def Group.enter? (g : Group) (s : Scope) : Option Scope :=
  match g with
  | .counted name => s.opened? name
  | .behind => some { s with behind := s.behind.or (some s.next) }
  | _ => some s

/-- The piece that a group is, and the scope after it, where `before` is the scope in front of it
and `s` the one at the end of its content. -/
def Group.leave? (g : Group) (before s : Scope) (w : Width) : Option (Piece × Scope) :=
  match g with
  | .counted _ => some (.single w, s.closed before.next w)
  | .uncounted => some (.single w, s)
  | .ahead => some (.single .zero, s)
  | .behind => if w.isFixed then some (.single .zero, { s with behind := before.behind }) else none

mutual

/-- Sequences between bars, up to a parenthesis or the end: the width of one or another of them.
Modes of the whole pattern may stand at the front of the first. -/
def choice : (fuel : Nat) → (outermost first verbose : Bool) → Scope → List Token →
    Option (Width × Scope × List Token)
  | 0, _, _, _, _, _ => none
  | fuel + 1, outermost, first, verbose, s, ts => do
    let (w, s, ts) ← sequence fuel (outermost && first) verbose s [] ts
    match ts with
    | .plain '|' :: ts =>
      let verbose := if outermost then .verbose ∈ s.modes else verbose
      let (v, s, ts) ← choice fuel outermost false verbose s ts
      return (w.either v, s, ts)
    | ts => return (w, s, ts)

/-- The rest of a sequence, of which some pieces have been read. -/
def sequence : (fuel : Nat) → (first verbose : Bool) → Scope → List Piece → List Token →
    Option (Width × Scope × List Token)
  | 0, _, _, _, _, _ => none
  | _, _, _, s, ps, [] => some (widthOf ps, s, [])
  | fuel + 1, first, verbose, s, ps, .escaped c :: ts => do
    let (p, ts) ← escape? s c ts
    sequence fuel first verbose s (p :: ps) ts
  | fuel + 1, first, verbose, s, ps, .plain c :: ts =>
    if c = '|' ∨ c = ')' then some (widthOf ps, s, .plain c :: ts)
    else if verbose && isGap c then sequence fuel first verbose s ps ts
    else if verbose && c == '#' then sequence fuel first verbose s ps (afterLine ts)
    else if c = '[' then do
      let ts ← afterSet? s.ofText ts
      sequence fuel first verbose s (.single .one :: ps) ts
    else if c = '(' then parenthesis fuel first verbose s ps ts
    else if c = '^' ∨ c = '$' then sequence fuel first verbose s (.anchor :: ps) ts
    else
      match operator? c ts with
      | some (r, ts) => do
        let ps ← repeated? s (← r) ps
        sequence fuel first verbose s ps (afterMark ts)
      | none => sequence fuel first verbose s (.single .one :: ps) ts

def parenthesis : (fuel : Nat) → (first verbose : Bool) → Scope → List Piece → List Token →
    Option (Width × Scope × List Token)
  | 0, _, _, _, _, _ => none
  | fuel + 1, first, verbose, s, ps, ts =>
    match ts with
    | .plain '?' :: .plain '#' :: ts =>
      let rest := ts.dropWhile (· ≠ .plain ')')
      if rest.isEmpty then none else sequence fuel first verbose s ps (rest.drop 1)
    | .plain '?' :: .plain 'P' :: .plain '=' :: ts => do
      let (name, ts) ← name? ')' ts
      let p ← s.again? (← s.number? name)
      sequence fuel first verbose s (p :: ps) ts
    | .plain '?' :: .plain '(' :: ts => do
      let (text, ts) ← until? ')' ts
      let (n, s) ← condition? s text
      if !s.isSettled n then none
      let (w, s, ts) ← sequence fuel false verbose s [] ts
      match ts with
      | .plain '|' :: ts =>
        let (v, s, ts) ← sequence fuel false verbose s [] ts
        sequence fuel first verbose s (.single (w.either v) :: ps) (← afterClose? ts)
      | ts => sequence fuel first verbose s (.single (w.either .zero) :: ps) (← afterClose? ts)
    | ts =>
      match ts.head?, modeChange? s.ofText (ts.drop 1) with
      | some (.plain '?'), some (.whole ms, ts) =>
        if first && ps.isEmpty then
          let s := { s with modes := s.modes ++ ms }
          sequence fuel first (.verbose ∈ s.modes) s ps ts
        else none
      | _, _ => do
        let (g, within, ts) ← group? s verbose ts
        let inside ← g.enter? s
        let (w, inside, ts) ← choice fuel false false within inside ts
        let (p, s) ← g.leave? s inside w
        sequence fuel first verbose s (p :: ps) (← afterClose? ts)

end

def areCompatible (ms : List Mode) : Bool :=
  !(ms.contains .ascii && (ms.contains .unicode || ms.contains .locale))

/-- The modes that a source sets, in the order in which they are written, if it is a pattern. That
a pattern of texts goes by the letters of every script is not said. A step takes a token or ends a
sequence, so three times the number of tokens is more steps than a reading takes. -/
def modes? (ofText : Bool) (source : List Char) : Option (List Mode) := do
  let ts ← tokens? source
  let (_, s, rest) ← choice (3 * ts.length + 2) true true false (.start ofText) ts
  if rest.isEmpty && areCompatible s.modes && s.awaited.all (· < s.next) then
    return Mode.all.filter fun m => m ∈ s.modes && m != .unicode
  else none

end Pattern
end AccountInput
