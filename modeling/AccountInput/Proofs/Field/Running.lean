import AccountInput.Field.Exact
import AccountInput.Proofs.Field.Bytes
import AccountInput.Proofs.Field.Power
import AccountInput.Proofs.Outcome

namespace AccountInput
namespace Fp

theorem ofInt_add (a b : Int) : ofInt (a + b) = ofInt a + ofInt b := by
  apply residue_injective
  rw [residue_add, residue_ofInt, residue_ofInt, residue_ofInt, Int.cast_add]

theorem ofInt_mul (a b : Int) : ofInt (a * b) = ofInt a * ofInt b := by
  apply residue_injective
  rw [residue_mul, residue_ofInt, residue_ofInt, residue_ofInt, Int.cast_mul]

theorem ofInt_pow (a : Int) (e : Nat) : ofInt (a ^ e) = (ofInt a).natPow e := by
  apply residue_injective
  rw [residue_natPow, residue_ofInt, residue_ofInt, Int.cast_pow]

theorem add_swap (x y : Fp) : x + y = y + x := congrArg ofInt (Int.add_comm x.val y.val)

theorem mul_swap (x y : Fp) : x * y = y * x := congrArg ofInt (Int.mul_comm x.val y.val)

/-- The reduction of an integer passes the check of a new element. -/
theorem ofValue_emod (n : Int) : ofValue (.int (n % modulus)) = .ok (ofInt n) := by
  have reduced : ofNat? (n % modulus).toNat = some (ofInt n) := ofNat?_val (ofInt n)
  have natural : ¬ n % modulus < 0 := Int.not_lt.mpr (ofInt_val_eq n ▸ Int.natCast_nonneg _)
  have content : (Value.int (n % modulus)).strictInt? = some (n % modulus) := rfl
  rw [ofValue, content]
  simp only [if_neg natural, reduced]

theorem combine_right (op : Fp → Fp → Fp) (x : Fp) {v : Value} {k : Int} (found : operandInteger? v = some k) :
    combine op (.fp x) v = .ok (op x (ofInt k)) := by
  have operand : fromValue v = .ok (ofInt k) := by cases v <;> cases found <;> rfl
  exact congrArg (Except.map (op x)) operand

/-- An integer on the left is taken to the right, so the operation must not mind the order. -/
theorem combine_left {op : Fp → Fp → Fp} (swap : ∀ x y, op x y = op y x) (x : Fp) {v : Value} {k : Int}
    (found : operandInteger? v = some k) : combine op v (.fp x) = .ok (op (ofInt k) x) := by
  rw [swap]
  cases v with
  | int n => cases found; rfl
  | bool b => cases found; rfl
  | fp y =>
    cases found
    rw [combine_fp, ofInt_val, swap]
  | _ => cases found

theorem take_of_integerAfter? {s : Step} {n m : Int} (computed : s.integerAfter? n = some m) :
    (ofInt n).take s = .ok (ofInt m) := by
  cases s with
  | add y =>
    obtain ⟨k, found, rfl⟩ := Option.map_eq_some_iff.mp computed
    rw [ofInt_add]
    exact combine_right _ _ found
  | addTo y =>
    obtain ⟨k, found, rfl⟩ := Option.map_eq_some_iff.mp computed
    rw [ofInt_add]
    exact combine_left add_swap _ found
  | mul y =>
    obtain ⟨k, found, rfl⟩ := Option.map_eq_some_iff.mp computed
    rw [ofInt_mul]
    exact combine_right _ _ found
  | mulBy y =>
    obtain ⟨k, found, rfl⟩ := Option.map_eq_some_iff.mp computed
    rw [ofInt_mul]
    exact combine_left mul_swap _ found
  | pow e =>
    obtain ⟨k, found, computed⟩ := Option.bind_eq_some_iff.mp computed
    obtain ⟨natural, same⟩ := Option.ite_none_right_eq_some.mp computed
    cases same
    rw [ofInt_pow]
    exact (power_of_int? _ found).trans (power_of_nonneg _ natural)
  | reread =>
    cases computed
    exact readValue_bytes_eq_ok_iff.mpr (read_eq_ok_iff.mpr rfl)
  | replace y =>
    cases computed
    exact congrArg Except.ok (ofInt_val y).symm

theorem foldlM_take_of_integerAfter? {steps : List Step} {n m : Int}
    (computed : steps.foldlM Step.integerAfter? n = some m) : steps.foldlM take (ofInt n) = .ok (ofInt m) := by
  induction steps generalizing n with
  | nil =>
    cases computed
    rfl
  | cons s rest ih =>
    obtain ⟨k, first, later⟩ := Option.bind_eq_some_iff.mp computed
    rw [List.foldlM_cons, take_of_integerAfter? first]
    exact ih later

theorem run_of_foldlM {steps : List Step} {x y : Fp} (taken : steps.foldlM take x = .ok y) : run x steps = y := by
  induction steps generalizing x with
  | nil => exact Except.ok.inj taken
  | cons s rest ih =>
    obtain ⟨z, first, later⟩ := ok_of_bind taken
    have after : x.after s = z := by rw [after, first]
    exact (congrArg (run · rest) after).trans (ih later)

theorem Step.IsExact.exists_integer {s : Step} (exact : s.IsExact) (n : Int) :
    ∃ m, s.integerAfter? n = some m := by
  cases s with
  | add y | addTo y | mul y | mulBy y =>
    obtain ⟨k, found⟩ := exact
    exact ⟨_, congrArg (Option.map _) found⟩
  | pow e =>
    obtain ⟨k, found⟩ := exact
    refine ⟨n ^ k, ?_⟩
    rw [integerAfter?, found, Option.bind_some, if_pos (Int.natCast_nonneg k), Int.toNat_natCast]
  | reread => exact ⟨n, rfl⟩
  | replace y => exact ⟨y.val, rfl⟩

theorem exists_foldlM_integer {steps : List Step} (exact : ∀ s ∈ steps, s.IsExact) (n : Int) :
    ∃ m, steps.foldlM Step.integerAfter? n = some m := by
  induction steps generalizing n with
  | nil => exact ⟨n, rfl⟩
  | cons s rest ih =>
    obtain ⟨first, later⟩ := List.forall_mem_cons.mp exact
    obtain ⟨k, found⟩ := first.exists_integer n
    obtain ⟨m, computed⟩ := ih later k
    refine ⟨m, ?_⟩
    rw [List.foldlM_cons, found]
    exact computed

/-- A run of steps that exact arithmetic can take never fails, and its element is the reduction of the
exact integer, which passes the check of a new element. Reducing commutes with the operations. -/
theorem run_computes_modulo :
    (∀ (x : Fp) (steps : List Step), (∀ s ∈ steps, s.IsExact) → ∃ n : Int,
      steps.foldlM Step.integerAfter? (x.val : Int) = some n ∧ steps.foldlM take x = .ok (run x steps) ∧
      ((run x steps).val : Int) = n % modulus ∧ ofValue (.int (n % modulus)) = .ok (run x steps)) ∧
    ∀ a b : Int, ∃ x y, fromValue (.int a) = .ok x ∧ fromValue (.int b) = .ok y ∧
      fromValue (.int (a + b)) = combine (· + ·) (.fp x) (.fp y) ∧
      fromValue (.int (a * b)) = combine (· * ·) (.fp x) (.fp y) ∧
      ∀ e : Nat, fromValue (.int (a ^ e)) = x.power (.int e) .null := by
  have reads (a : Int) : fromValue (.int a) = .ok (ofInt a) := rfl
  refine ⟨fun x steps exact => ?_, fun a b => ⟨ofInt a, ofInt b, reads a, reads b, ?_, ?_, fun e => ?_⟩⟩
  · obtain ⟨n, computed⟩ := exists_foldlM_integer exact x.val
    have taken := foldlM_take_of_integerAfter? computed
    rw [ofInt_val] at taken
    have value : run x steps = ofInt n := run_of_foldlM taken
    rw [value]
    exact ⟨n, computed, taken, ofInt_val_eq n, ofValue_emod n⟩
  · rw [reads, combine_fp, ofInt_add]
  · rw [reads, combine_fp, ofInt_mul]
  · rw [reads, ofInt_pow, power_of_nonneg _ (Int.natCast_nonneg e), Int.toNat_natCast]

/-- Minus one, with minus five added on its left, times seven, to the third, written and read again. -/
theorem run_computes_modulo_negative :
    let steps := [Step.addTo (.int (-5)), .mul (.fp ⟨7, by decide⟩), .pow (.int 3), .reread, .mulBy (.bool true)]
    (∀ s ∈ steps, s.IsExact) ∧ steps.foldlM take (ofInt (-1)) = .ok (ofInt (-74088)) := by
  intro steps
  have exact : ∀ s ∈ steps, s.IsExact := by
    simp only [steps, List.forall_mem_cons]
    exact ⟨⟨-5, rfl⟩, ⟨7, rfl⟩, ⟨3, rfl⟩, trivial, ⟨1, rfl⟩, List.forall_mem_nil _⟩
  obtain ⟨n, computed, taken, value, _⟩ := run_computes_modulo.1 (ofInt (-1)) steps exact
  refine ⟨exact, taken.trans (congrArg Except.ok (ext (Int.natCast_inj.mp ?_)))⟩
  have integer : n = ((-5 + (ofInt (-1)).val) * 7) ^ 3 * 1 := (Option.some.inj computed).symm
  rw [value, ofInt_val_eq, integer]
  decide

end Fp
end AccountInput
