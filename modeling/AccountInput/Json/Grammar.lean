import AccountInput.Json.Token
import AccountInput.Value.Equal

namespace AccountInput

namespace Value

mutual

/-- How deep lists and dictionaries are nested in a value. -/
def depth : Value → Nat
  | .list vs => depthOfItems vs + 1
  | .dict es => depthOfEntries es + 1
  | _ => 0

def depthOfItems : List Value → Nat
  | [] => 0
  | v :: vs => max (depth v) (depthOfItems vs)

def depthOfEntries : List (Value × Value) → Nat
  | [] => 0
  | (_, v) :: es => max (depth v) (depthOfEntries es)

end

end Value

namespace Json

/-- The characters between quotation marks, by the code units that they spell. -/
inductive SpellsUnits : List Nat → List Char → Prop where
  | nil : SpellsUnits [] []
  | plain {c : Char} {ns : List Nat} {cs : List Char} (above : 0x20 ≤ c.toNat) (other : c ≠ '"' ∧ c ≠ '\\')
      (more : SpellsUnits ns cs) : SpellsUnits (c.toNat :: ns) (c :: cs)
  | short {e : Char} {n : Nat} {ns : List Nat} {cs : List Char} (letter : shortEscape? e = some n)
      (more : SpellsUnits ns cs) : SpellsUnits (n :: ns) ('\\' :: e :: cs)
  | unit {a b c d : Char} {n : Nat} {ns : List Nat} {cs : List Char} (digits : hex4? a b c d = some n)
      (more : SpellsUnits ns cs) : SpellsUnits (n :: ns) ('\\' :: 'u' :: a :: b :: c :: d :: cs)

/-- Digits, one of them at least. -/
def AreDigits (ds : List Char) : Prop := ds ≠ [] ∧ ∀ c ∈ ds, isDigit c = true

/-- The digits of a whole number: no zero stands before another digit. -/
def AreWhole (ds : List Char) : Prop := AreDigits ds ∧ (ds.head? = some '0' → ds = ['0'])

def sign (negative : Bool) : List Char := if negative then ['-'] else []

/-- A fraction by its digits, or none. -/
inductive SpellsFraction : List Char → List Char → Prop where
  | none : SpellsFraction [] []
  | digits {ds : List Char} (digits : AreDigits ds) : SpellsFraction ds ('.' :: ds)

/-- A power of ten by its exponent, or none. -/
inductive SpellsExponent : Int → List Char → Prop where
  | none : SpellsExponent 0 []
  | up {e : Char} {plus ds : List Char} (mark : e = 'e' ∨ e = 'E') (signed : plus = [] ∨ plus = ['+'])
      (digits : AreDigits ds) : SpellsExponent (digitsValue ds) (e :: plus ++ ds)
  | down {e : Char} {ds : List Char} (mark : e = 'e' ∨ e = 'E') (digits : AreDigits ds) :
      SpellsExponent (-digitsValue ds) (e :: '-' :: ds)

/-- What a piece of text may spell: a name or a value, and the items of a list and the members of an object, of
which there is at least one. -/
inductive Part where
  | name (s : String)
  | value (v : Value)
  | items (vs : List Value)
  | members (fs : List (String × Value))

/-- A text that spells something. The members of an object have different names. -/
inductive Spells : Part → List Char → Prop where
  | null : Spells (.value .null) "null".toList
  | bool (b : Bool) : Spells (.value (.bool b)) (if b then "true".toList else "false".toList)
  | nan : Spells (.value (.float .nan)) "NaN".toList
  | infinite (negative : Bool) : Spells (.value (.float (.infinite negative))) (sign negative ++ "Infinity".toList)
  | int (negative : Bool) {ds : List Char} (whole : AreWhole ds) (short : ds.length ≤ Decimal.digitLimit) :
      Spells (.value (.int (if negative then -digitsValue ds else digitsValue ds))) (sign negative ++ ds)
  | float (negative : Bool) {ds fs fraction exponent : List Char} {e : Int} (whole : AreWhole ds)
      (fractional : SpellsFraction fs fraction) (scaled : SpellsExponent e exponent)
      (marked : fraction ≠ [] ∨ exponent ≠ []) :
      Spells (.value (.float (Double.ofDecimal negative (digitsValue (ds ++ fs)) (e - fs.length))))
        (sign negative ++ ds ++ fraction ++ exponent)
  | name {ns : List Nat} {cs : List Char} (units : SpellsUnits ns cs) :
      Spells (.name (String.ofList (Text.ofPairs ns))) ('"' :: cs ++ ['"'])
  | text {s : String} {cs : List Char} (name : Spells (.name s) cs) : Spells (.value (.text s)) cs
  | emptyList {blanks : List Char} (blank : ∀ c ∈ blanks, isBlank c = true) :
      Spells (.value (.list [])) ('[' :: blanks ++ [']'])
  | list {vs : List Value} {cs : List Char} (items : Spells (.items vs) cs) :
      Spells (.value (.list vs)) ('[' :: cs ++ [']'])
  | emptyObject {blanks : List Char} (blank : ∀ c ∈ blanks, isBlank c = true) :
      Spells (.value (.dict [])) ('{' :: blanks ++ ['}'])
  | object {fs : List (String × Value)} {cs : List Char} (members : Spells (.members fs) cs)
      (distinct : (fs.map (·.1)).Nodup) : Spells (.value (.dict (Value.ofFields fs))) ('{' :: cs ++ ['}'])
  | lastItem {v : Value} {cs : List Char} (value : Spells (.value v) cs) : Spells (.items [v]) cs
  | item {v : Value} {vs : List Value} {cs ds : List Char} (value : Spells (.value v) cs)
      (more : Spells (.items vs) ds) : Spells (.items (v :: vs)) (cs ++ ',' :: ds)
  | lastMember {s : String} {v : Value} {cs ds : List Char} (name : Spells (.name s) cs)
      (value : Spells (.value v) ds) : Spells (.members [(s, v)]) (cs ++ ':' :: ds)
  | member {s : String} {v : Value} {fs : List (String × Value)} {cs ds es : List Char} (name : Spells (.name s) cs)
      (value : Spells (.value v) ds) (more : Spells (.members fs) es) :
      Spells (.members ((s, v) :: fs)) (cs ++ ':' :: (ds ++ ',' :: es))
  | before {p : Part} {c : Char} {cs : List Char} (blank : isBlank c = true) (rest : Spells p cs) :
      Spells p (c :: cs)
  | after {p : Part} {c : Char} {cs : List Char} (rest : Spells p cs) (blank : isBlank c = true) :
      Spells p (cs ++ [c])

end Json
end AccountInput
