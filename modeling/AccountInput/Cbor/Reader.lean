import AccountInput.Cbor.Tag
import AccountInput.Number.Endian
import AccountInput.Text.Utf8

namespace AccountInput
namespace Cbor

/-- The argument of a head: a number, or the mark of an open length. -/
inductive Argument where
  | number (n : Nat)
  | openEnded
deriving DecidableEq

/-- The first bytes, as many as asked for, and the others. -/
def split : (n : Nat) → List UInt8 → Option (List UInt8 × List UInt8)
  | 0, bs => some ([], bs)
  | _ + 1, [] => none
  | n + 1, b :: bs => (split n bs).map fun (taken, rest) => (b :: taken, rest)

/-- The number in the first bytes. -/
def wide (width : Nat) (bs : List UInt8) : Option (Argument × List UInt8) :=
  (split width bs).map fun (taken, rest) => (.number (ofBigEndian taken), rest)

/-- The argument that the low bits of a first byte announce. -/
def argument (info : Nat) (bs : List UInt8) : Option (Argument × List UInt8) :=
  if info < 24 then some (.number info, bs)
  else if info = 24 then wide 1 bs
  else if info = 25 then wide 2 bs
  else if info = 26 then wide 4 bs
  else if info = 27 then wide 8 bs
  else if info = 31 then some (.openEnded, bs)
  else none

/-- The byte that ends what has an open length. -/
def stopByte : UInt8 := 0xff

/-- The chunks of a byte or text string of open length. Each is a string of the same kind with a
length of its own. -/
def chunks (major : Nat) : (fuel : Nat) → List UInt8 → Option (List (List UInt8) × List UInt8)
  | 0, _ | _, [] => none
  | fuel + 1, b :: bs =>
    if b = stopByte then some ([], bs)
    else if b.toNat / 32 ≠ major then none
    else do
      match ← argument (b.toNat % 32) bs with
      | (.openEnded, _) => none
      | (.number n, bs) =>
        let (chunk, bs) ← split n bs
        let (others, rest) ← chunks major fuel bs
        return (chunk :: others, rest)

/-- The chunks of a string of either sort of length. -/
def stringChunks (major fuel : Nat) (a : Argument) (bs : List UInt8) :
    Option (List (List UInt8) × List UInt8) :=
  match a with
  | .number n => (split n bs).map fun (chunk, rest) => ([chunk], rest)
  | .openEnded => chunks major fuel bs

def readBytes (fuel : Nat) (a : Argument) (bs : List UInt8) :
    Option (Value × List UInt8) := do
  let (cs, rest) ← stringChunks 2 fuel a bs
  return (.bytes .fixed cs.flatten, rest)

/-- A text. Each chunk is UTF-8 on its own. -/
def readText (fuel : Nat) (a : Argument) (bs : List UInt8) : Option (Value × List UInt8) := do
  let (cs, rest) ← stringChunks 3 fuel a bs
  let ts ← cs.mapM Utf8.decode?
  return (.text (String.ofList ts.flatten), rest)

def readFloat (size width places : Nat) (bs : List UInt8) : Option (Value × List UInt8) :=
  (split size bs).map fun (taken, rest) =>
    (.float (Double.ofFields width places (ofBigEndian taken)), rest)

/-- A value without content of its own, or a binary number. -/
def readSimple (info : Nat) (bs : List UInt8) : Option (Value × List UInt8) :=
  match info with
  | 20 => some (.bool false, bs)
  | 21 => some (.bool true, bs)
  | 22 => some (.null, bs)
  | 23 => some (.undefined, bs)
  | 24 =>
    match bs with
    | n :: rest => if n < 32 then none else some (.simple n.toNat, rest)
    | [] => none
  | 25 => readFloat 2 5 10 bs
  | 26 => readFloat 4 8 23 bs
  | 27 => readFloat 8 11 52 bs
  | n => if n < 20 then some (.simple n, bs) else none

/-- What is kept in mind while items are read. -/
structure Memory where
  /-- The strings that have a number, while a namespace is open. -/
  strings : Option (List Value)
  /-- The values that are marked for sharing, and for one that is not read to its end what stands
  for it. -/
  shared : List (Option Value)

namespace Memory

def empty : Memory := ⟨none, []⟩

/-- The least length of a string that is given a number: one that is longer than a reference to
it. -/
def leastNoted (count : Nat) : Nat :=
  if count < 24 then 3
  else if count < UInt8.size then 4
  else if count < UInt16.size then 5
  else if count < UInt32.size then 7
  else 11

/-- The memory after a string of a given length, if it was not left open. -/
def noted (m : Memory) (length : Argument) (v : Value) : Memory :=
  match m.strings, length with
  | some vs, .number n =>
    if leastNoted vs.length ≤ n then { m with strings := some (vs ++ [v]) } else m
  | _, _ => m

theorem noted_of_closed {m : Memory} (closed : m.strings = none) (length : Argument) (v : Value) :
    m.noted length v = m := by
  simp [noted, closed]

/-- The tags that use the memory, by what they do. -/
def stringTag : Nat := 25
def shareTag : Nat := 28
def sharedTag : Nat := 29
def namespaceTag : Nat := 256

/-- What stands for a container while its items are read. Inside a key nothing does. -/
def unfinished (asKey : Bool) : List UInt8 → Option Value
  | [] => none
  | b :: _ =>
    if asKey then none
    else if b.toNat / 32 = 4 then some (.list [])
    else if b.toNat / 32 = 5 then some (.dict [])
    else none

/-- The memory while the content of a tag is read. -/
def entering (m : Memory) (tag : Nat) (asKey : Bool) (bs : List UInt8) : Memory :=
  if tag = shareTag then { m with shared := m.shared ++ [unfinished asKey bs] }
  else if tag = namespaceTag then { m with strings := some [] }
  else m

/-- The memory `inside`, with which the content of a tag was read to its end, after that of a
tag which was entered with the memory `m`. -/
def leaving (m : Memory) (tag : Nat) (content : Value) (inside : Memory) : Memory :=
  if tag = shareTag then { inside with shared := inside.shared.set m.shared.length (some content) }
  else if tag = namespaceTag then { inside with strings := m.strings }
  else inside

/-- The entry of a list at a place that a value names. -/
def itemAt? {α : Type} (xs : List α) (place : Value) : Option α :=
  match place.int? with
  | some (.ofNat n) => xs[n]?
  | _ => none

def ofTag (m : Memory) (asKey : Bool) (tag : Nat) (content : Value) : Option Value :=
  if tag = stringTag then m.strings.bind fun vs => itemAt? vs content
  else if tag = sharedTag then (itemAt? m.shared content).join
  else if tag = shareTag ∨ tag = namespaceTag then some content
  else Tag.apply asKey tag content

end Memory

/-- A sequence of a kind of values, as a key or not. -/
def sequence (asKey : Bool) (vs : List Value) : Value := if asKey then .tuple vs else .list vs

/-- A map, if its keys are such that may be keys. -/
def mapping (asKey : Bool) (es : List (Value × Value)) : Option Value :=
  if es.all fun e => e.1.isHashable then
    some (if asKey then .frozenDict (Value.merge [] es) else .dict (Value.merge [] es))
  else none

/-- How many items are still to come; none where the length is open. -/
def Argument.count : Argument → Option Nat
  | .number n => some n
  | .openEnded => none

/-- Whether a container ends here, and the bytes after its end. -/
def ended (count : Option Nat) (bs : List UInt8) : Option (List UInt8) :=
  match count, bs with
  | some 0, _ => some bs
  | none, b :: rest => if b = stopByte then some rest else none
  | _, _ => none

mutual

/-- The first item, the memory after it, and the bytes after it. At most `depth` containers and
tags are nested. -/
def readItem : (fuel depth : Nat) → (asKey : Bool) → Memory → List UInt8 →
    Option (Value × Memory × List UInt8)
  | 0, _, _, _, _ | _, _, _, _, [] => none
  | fuel + 1, depth, asKey, m, b :: bs =>
    if b.toNat / 32 = 7 then
      (readSimple (b.toNat % 32) bs).map fun (v, rest) => (v, m, rest)
    else do
      let (a, bs) ← argument (b.toNat % 32) bs
      match b.toNat / 32, a with
      | 0, .number n => return (.int n, m, bs)
      | 1, .number n => return (.int (-1 - n), m, bs)
      | 2, a =>
        let (v, rest) ← readBytes fuel a bs
        return (v, m.noted a v, rest)
      | 3, a =>
        let (v, rest) ← readText fuel a bs
        return (v, m.noted a v, rest)
      | 4, a =>
        if depth = 0 then none
        let (vs, m, rest) ← readItems fuel (depth - 1) asKey a.count m bs
        return (sequence asKey vs, m, rest)
      | 5, a =>
        if depth = 0 then none
        let (es, m, rest) ← readEntries fuel (depth - 1) asKey a.count m bs
        let v ← mapping asKey es
        return (v, m, rest)
      | 6, .number tag =>
        if depth = 0 then none
        let (content, inside, rest) ← readItem fuel (depth - 1) (asKey || Tag.fixesContent tag)
          (m.entering tag asKey bs) bs
        let v ← inside.ofTag asKey tag content
        return (v, m.leaving tag content inside, rest)
      | _, _ => none

def readItems : (fuel depth : Nat) → (asKey : Bool) → (count : Option Nat) → Memory →
    List UInt8 → Option (List Value × Memory × List UInt8)
  | 0, _, _, _, _, _ => none
  | fuel + 1, depth, asKey, count, m, bs =>
    match ended count bs with
    | some rest => some ([], m, rest)
    | none => do
      let (v, m, bs) ← readItem fuel depth asKey m bs
      let (vs, m, rest) ← readItems fuel depth asKey (count.map (· - 1)) m bs
      return (v :: vs, m, rest)

def readEntries : (fuel depth : Nat) → (asKey : Bool) → (count : Option Nat) → Memory →
    List UInt8 → Option (List (Value × Value) × Memory × List UInt8)
  | 0, _, _, _, _, _ => none
  | fuel + 1, depth, asKey, count, m, bs =>
    match ended count bs with
    | some rest => some ([], m, rest)
    | none => do
      let (k, m, bs) ← readItem fuel depth true m bs
      let (v, m, bs) ← readItem fuel depth asKey m bs
      let (es, m, rest) ← readEntries fuel depth asKey (count.map (· - 1)) m bs
      return ((k, v) :: es, m, rest)

end

/-- The deepest nesting that is read. -/
def depthLimit : Nat := 400

/-- The first item of a byte string. Every step into an item takes a byte or ends a container, so
twice the number of bytes is more steps than a reading takes. -/
def read? (bs : List UInt8) : Option Value :=
  (readItem (2 * bs.length + 2) depthLimit false .empty bs).map (·.1)

end Cbor
end AccountInput
