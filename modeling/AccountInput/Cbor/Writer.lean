import AccountInput.Cbor.Item
import AccountInput.Number.Endian
import AccountInput.Text.Utf8

namespace AccountInput
namespace Cbor

/-- The kinds of items that the writer uses, by their number in the high bits of a head. -/
def wordMajor : Nat := 0
def textMajor : Nat := 3
def listMajor : Nat := 4
def mapMajor : Nat := 5

/-- The first byte of a head: the kind, and how the argument follows. -/
def initial (major info : Nat) : UInt8 := UInt8.ofNat (major * 32 + info)

/-- The head of an item with an argument below `2 ^ 64`. -/
def head (major n : Nat) : List UInt8 :=
  if n < 24 then [initial major n]
  else if n < UInt8.size then initial major 24 :: bigEndian 1 n
  else if n < UInt16.size then initial major 25 :: bigEndian 2 n
  else if n < UInt32.size then initial major 26 :: bigEndian 4 n
  else initial major 27 :: bigEndian 8 n

def writeText (s : String) : List UInt8 :=
  head textMajor (Utf8.ofString s).length ++ Utf8.ofString s

/-- The order of bytes, a beginning before what it begins. -/
def bytesLe : List UInt8 → List UInt8 → Bool
  | [], _ => true
  | _ :: _, [] => false
  | a :: as, b :: bs => a < b || (a == b && bytesLe as bs)

/-- The canonical order of written keys. -/
def keyLe (a b : List UInt8) : Bool :=
  a.length < b.length || (a.length == b.length && bytesLe a b)

/-- Written entries in canonical order. -/
def sortEntries (es : List (List UInt8 × List UInt8)) : List (List UInt8 × List UInt8) :=
  es.mergeSort fun a b => keyLe a.1 b.1

mutual

/-- The bytes of an item. -/
def write : Item → List UInt8
  | .word n => head wordMajor n.val
  | .text s => writeText s
  | .list items => head listMajor items.length ++ writeAll items
  | .map entries =>
    head mapMajor entries.length ++
      (sortEntries (writeEntries entries)).flatMap fun e => e.1 ++ e.2

def writeAll : List Item → List UInt8
  | [] => []
  | i :: is => write i ++ writeAll is

def writeEntries : List (String × Item) → List (List UInt8 × List UInt8)
  | [] => []
  | (k, i) :: es => (writeText k, write i) :: writeEntries es

end

/-- Entries in the canonical order of their keys. -/
def sortKeys (es : List (String × Item)) : List (String × Item) :=
  es.mergeSort fun a b => keyLe (writeText a.1) (writeText b.1)

namespace Item

mutual

/-- The item with the entries of every map in canonical order. -/
def canonical : Item → Item
  | .word n => .word n
  | .text s => .text s
  | .list items => .list (allCanonical items)
  | .map entries => .map (sortKeys (entriesCanonical entries))

def allCanonical : List Item → List Item
  | [] => []
  | i :: is => i.canonical :: allCanonical is

def entriesCanonical : List (String × Item) → List (String × Item)
  | [] => []
  | (k, i) :: es => (k, i.canonical) :: entriesCanonical es

end

/-- An item of at most `depth` containers in each other, with distinct keys in every map, of which a
head can tell the lengths. -/
inductive Fits : (depth : Nat) → Item → Prop
  | word {depth : Nat} (n : Fin UInt64.size) : Fits depth (.word n)
  | text {depth : Nat} {s : String} : (Utf8.ofString s).length < UInt64.size → Fits depth (.text s)
  | list {depth : Nat} {items : List Item} : items.length < UInt64.size → (∀ i ∈ items, Fits depth i) →
      Fits (depth + 1) (.list items)
  | map {depth : Nat} {entries : List (String × Item)} : entries.length < UInt64.size →
      (entries.map (·.1)).Nodup → (∀ e ∈ entries, (Utf8.ofString e.1).length < UInt64.size) →
      (∀ e ∈ entries, Fits depth e.2) → Fits (depth + 1) (.map entries)

end Item
end Cbor
end AccountInput
