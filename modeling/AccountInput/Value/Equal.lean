import AccountInput.Value.Basic

namespace AccountInput
namespace Value

def numeric? : Value → Option Numeric
  | .int n => some (.whole n)
  | .bool b => some (.whole b.toNat)
  | .float x => some (.binary x)
  | .extended e => e.numeric?
  | _ => none

/-- Whether an element is the residue of an integer; as keys they must also hash alike. -/
def residueOf (asKey : Bool) (x : Fp) (n : Int) : Bool :=
  x == Fp.ofInt n && (!asKey || (x.hash : Int) == intHash n)

/-- Equality of values that hold no others. -/
def leafEqual (asKey : Bool) (a b : Value) : Bool :=
  match a, b with
  | .null, .null => true
  | .fp x, .fp y => x == y
  | .fp x, .int n => residueOf asKey x n
  | .int n, .fp x => residueOf asKey x n
  | .text s, .text t => s == t
  | .text s, .code c => s == c.text
  | .code c, .text s => s == c.text
  | .code c, .code d => c == d
  | .bytes _ x, .bytes _ y => x == y
  | .amount x, .amount y => x == y
  | .blockTime x, .blockTime y => x == y
  | .schedule x, .schedule y => x == y
  | .timing x, .timing y => x == y
  | .symbol x, .symbol y => x == y
  | .untimedRecord x, .untimedRecord y => x == y
  | .atom x, .atom y => x == y
  | .hashInput x, .hashInput y => x == y
  | .kind x, .kind y => x == y
  | .undefined, .undefined => true
  | .simple m, .simple n => m == n
  | .simple m, v | v, .simple m => v.int? == some (m : Int)
  | .extended e, .extended f => e.equal f
  | _, _ =>
    match numeric? a, numeric? b with
    | some x, some y => x.equal y
    | _, _ => false

mutual

/-- Equality, or sameness as keys. -/
def agrees (asKey : Bool) : Value → Value → Bool
  | .list xs, .list ys => agreesAll asKey xs ys
  | .tuple xs, .tuple ys => agreesAll asKey xs ys
  | .dict xs, .dict ys => xs.length == ys.length && agreesEach asKey xs ys
  | .frozenDict xs, .frozenDict ys => xs.length == ys.length && agreesEach asKey xs ys
  | .envelope a b, .envelope c d => agrees asKey a c && agrees asKey b d
  | .timedRecord s a, .timedRecord t b => s == t && agrees asKey a b
  | .scheduleRecord s a b c d e, .scheduleRecord t a' b' c' d' e' =>
    s == t && agrees asKey a a' && agrees asKey b b' && agrees asKey c c' &&
      agrees asKey d d' && agrees asKey e e'
  | .settings a b c, .settings a' b' c' =>
    agrees asKey a a' && agrees asKey b b' && agrees asKey c c'
  | .tagged m a, .tagged n b => m == n && agrees asKey a b
  | .set _ xs, .set _ ys => xs.length == ys.length && agreesWithin xs ys
  | a, b => leafEqual asKey a b

def agreesAll (asKey : Bool) : List Value → List Value → Bool
  | [], [] => true
  | x :: xs, y :: ys => agrees asKey x y && agreesAll asKey xs ys
  | _, _ => false

def agreesWithin : List Value → List Value → Bool
  | [], _ => true
  | x :: xs, others => others.any (agrees true x ·) && agreesWithin xs others

/-- Whether each entry has a partner with the same key and an equal value. -/
def agreesEach (asKey : Bool) : List (Value × Value) → List (Value × Value) → Bool
  | [], _ => true
  | (k, v) :: es, others =>
    others.any (fun other => agrees true k other.1 && agrees asKey v other.2) &&
      agreesEach asKey es others

end

theorem agrees_fp_int (asKey : Bool) (x : Fp) (n : Int) :
    agrees asKey (.fp x) (.int n) = residueOf asKey x n := by
  simp only [agrees, leafEqual]

def equal (a b : Value) : Bool := agrees false a b

/-- Sameness as keys of a dictionary. -/
def sameKey (a b : Value) : Bool := agrees true a b

mutual

/-- Whether a value can be a key of a dictionary: nothing in it may change. -/
def isHashable : Value → Bool
  | .list _ | .dict _ | .bytes .growable _ | .hashInput _ | .settings .. | .set false _ => false
  | .tuple xs => areHashable xs
  | .frozenDict es => haveHashableValues es
  | .envelope a b => isHashable a && isHashable b
  | .timedRecord _ a => isHashable a
  | .scheduleRecord _ a b c d e =>
    isHashable a && isHashable b && isHashable c && isHashable d && isHashable e
  | .tagged _ a => isHashable a
  | _ => true

def areHashable : List Value → Bool
  | [] => true
  | x :: xs => isHashable x && areHashable xs

def haveHashableValues : List (Value × Value) → Bool
  | [] => true
  | (_, v) :: es => isHashable v && haveHashableValues es

end

/-- The value of a key in a list of entries. -/
def lookup (key : Value) (entries : List (Value × Value)) : Option Value :=
  (entries.find? fun e => sameKey key e.1).map (·.2)

/-- The value under a text in a list of entries. -/
def get? (entries : List (Value × Value)) (key : String) : Option Value :=
  lookup (.text key) entries

/-- Binds a key: an entry with that key keeps its place and its spelling of the key. -/
def insert (entries : List (Value × Value)) (key value : Value) : List (Value × Value) :=
  match entries with
  | [] => [(key, value)]
  | (k, v) :: rest =>
    if sameKey key k then (k, value) :: rest else (k, v) :: insert rest key value

/-- Binds the entries of a second list over those of a first. -/
def merge (entries others : List (Value × Value)) : List (Value × Value) :=
  others.foldl (fun es e => insert es e.1 e.2) entries

def erase (entries : List (Value × Value)) (key : Value) : List (Value × Value) :=
  entries.filter fun e => !sameKey key e.1

/-- A set of items, of which equal ones count once. Integers stand in ascending order, other items
in that of their coming. -/
def setOf (frozen : Bool) (items : List Value) : Value :=
  let distinct := items.foldl (fun xs x => if xs.any (sameKey x) then xs else xs ++ [x]) []
  match distinct.mapM int? with
  | some ns => .set frozen ((distinct.zip ns).mergeSort (fun a b => a.2 ≤ b.2) |>.map (·.1))
  | none => .set frozen distinct

def ofFields (fs : List (String × Value)) : List (Value × Value) :=
  fs.map fun (k, v) => (.text k, v)

end Value
end AccountInput
