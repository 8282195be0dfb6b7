import Mathlib.Data.List.DropRight

namespace AccountInput
namespace Text

variable {α : Type} [DecidableEq α]

theorem rdropWhile_append_replicate (a : α) (xs : List α) (n : Nat) :
    (xs ++ List.replicate n a).rdropWhile (· = a) = xs.rdropWhile (· = a) := by
  have same : decide (a = a) = true := decide_eq_true rfl
  induction n with
  | zero => rw [List.replicate_zero, List.append_nil]
  | succ n ih =>
    rw [List.replicate_succ', ← List.append_assoc, List.rdropWhile_concat_pos (· = a) _ _ same, ih]

/-- What is left out at the end of a list is padding alone. -/
theorem exists_eq_rdropWhile_append (a : α) (xs : List α) :
    ∃ n, xs = xs.rdropWhile (· = a) ++ List.replicate n a := by
  have padding : xs.rtakeWhile (· = a) = List.replicate (xs.rtakeWhile (· = a)).length a := by
    refine List.eq_replicate_of_mem fun b member => ?_
    have same := List.mem_rtakeWhile_imp member
    exact of_decide_eq_true same
  refine ⟨(xs.rtakeWhile (· = a)).length, ?_⟩
  rw [← padding, List.rdropWhile_append_rtakeWhile]

end Text
end AccountInput
