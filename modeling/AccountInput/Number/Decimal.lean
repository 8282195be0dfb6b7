namespace AccountInput
namespace Decimal

/-- The most digits that are read or written, a sign not counted. -/
def digitLimit : Nat := 4300

/-- The least natural with too many digits. -/
def tooLong : Nat := Nat.pow 10 digitLimit

/-- The text of an integer, unless it has too many digits. -/
def text? (n : Int) : Option String :=
  if n.natAbs < tooLong then some (toString n) else none

theorem lt_tooLong {n k : Nat} (few : k ≤ digitLimit) (bound : n < Nat.pow 10 k) : n < tooLong := by
  unfold tooLong
  -- the limit stays a name, for its power is too large to be worked out
  generalize digitLimit = limit at few ⊢
  exact Nat.lt_of_lt_of_le bound (Nat.pow_le_pow_right (by decide) few)

theorem text?_of_lt {n : Int} {k : Nat} (few : k ≤ digitLimit) (bound : n.natAbs < Nat.pow 10 k) :
    text? n = some (toString n) := by
  rw [text?, if_pos (lt_tooLong few bound)]

theorem text?_tooLong : text? tooLong = none := by
  rw [text?, Int.natAbs_natCast]
  exact if_neg (Nat.lt_irrefl _)

def limitMessage : String :=
  "Exceeds the limit (4300 digits) for integer string conversion; " ++
    "use sys.set_int_max_str_digits() to increase the limit"

/-- A number with zeros before it up to a width. -/
def zeroed (width n : Nat) : String := String.ofList ((Nat.toDigits 10 n).leftpad width '0')

/-- The number that decimal digits spell, the highest first. -/
def ofDigits (ds : List Nat) : Nat := ds.foldl (fun n d => 10 * n + d) 0

/-- The number of decimal digits. The number of binary ones gives it to within two. -/
def digitCount (n : Nat) : Nat :=
  let least := n.log2 * 3010299 / 10000000
  if n < Nat.pow 10 (least + 1) then least + 1
  else if n < Nat.pow 10 (least + 2) then least + 2
  else least + 3

end Decimal
end AccountInput
