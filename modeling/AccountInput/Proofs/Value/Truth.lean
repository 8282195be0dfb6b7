import AccountInput.Fault
import AccountInput.Proofs.Number.Double
import AccountInput.Value.Number

namespace AccountInput

namespace Double

theorem isZero_iff {x : Double} : x.isZero = true ↔ x.orderRatio 0 1 = some .eq := by
  constructor
  · intro none
    cases x with
    | nan => cases none
    | infinite negative => cases none
    | finite negative m e c =>
      obtain rfl : m = 0 := beq_iff_eq.mp none
      obtain rfl : e = -1074 := c.2.2.2.resolve_left (by decide)
      exact orderRatio_zero negative
  · intro same
    obtain ⟨negative, rfl⟩ := eq_zero_of_orderRatio same
    rfl

end Double

namespace Numeric

theorem equal_zero_ratio (n : Int) (d : Nat) : (ratio n d).equal (whole 0) = (n == 0) := by
  rw [Bool.eq_iff_iff]
  simp only [equal, order, whole, beq_iff_eq, Option.some.injEq, Std.LawfulEqCmp.compare_eq_iff_eq, Int.natCast_one,
    Int.mul_one, Int.zero_mul]

theorem equal_zero_binary (x : Double) : (binary x).equal (whole 0) = x.isZero := by
  rw [Bool.eq_iff_iff, Double.isZero_iff]
  exact beq_iff_eq

end Numeric

namespace Standard

theorem scaleDownTen_eq_zero_iff (digits : Nat) (e : Int) : (Double.scaleDownTen digits 1 e).1 = 0 ↔ digits = 0 := by
  have power (k : Nat) : Nat.pow 10 k ≠ 0 := Nat.pos_iff_ne_zero.mp (Nat.pow_pos (by decide))
  rw [Double.scaleDownTen]
  split
  · exact Iff.rfl
  · exact Nat.mul_eq_zero.trans (or_iff_left (power _))

theorem isTruthy_decimal_eq_false_iff {negative : Bool} {digits : Nat} {exponent : Int} :
    (decimal negative digits exponent).isTruthy = false ↔
      ∃ x, (decimal negative digits exponent).numeric? = some x ∧ x.equal (.whole 0) = true := by
  rw [isTruthy, bne_eq_false_iff_eq, numeric?]
  by_cases none : digits = 0
  · rw [if_pos none]
    exact iff_of_true none ⟨_, rfl, rfl⟩
  · refine iff_of_false none ?_
    rintro ⟨x, number, zero⟩
    rw [if_neg none] at number
    split at number
    · cases number
      rw [Numeric.equal_zero_ratio, beq_iff_eq] at zero
      have digit := mt (scaleDownTen_eq_zero_iff digits (-exponent)).mp none
      cases negative with
      | false => exact digit (Int.natCast_eq_zero.mp zero)
      | true => exact digit (Int.natCast_eq_zero.mp (Int.neg_eq_zero.mp zero))
    · cases number

theorem isTruthy_eq_false_iff {s : Standard} : s.isTruthy = false ↔
    (∃ text, s = .message text 0) ∨ ∃ x, s.numeric? = some x ∧ x.equal (.whole 0) = true := by
  cases s with
  | decimal negative digits exponent =>
    refine isTruthy_decimal_eq_false_iff.trans (or_iff_right ?_).symm
    rintro ⟨_, ⟨⟩⟩
  | ratio num den =>
    rw [isTruthy, bne_eq_false_iff_eq]
    constructor
    · rintro rfl
      exact .inr ⟨_, rfl, (Numeric.equal_zero_ratio 0 den).trans rfl⟩
    · rintro (⟨_, ⟨⟩⟩ | ⟨x, ⟨⟩, zero⟩)
      rwa [Numeric.equal_zero_ratio, beq_iff_eq] at zero
  | complex real imaginary =>
    rw [isTruthy, Bool.not_eq_false', Bool.and_eq_true, numeric?]
    constructor
    · rintro ⟨none, real_only⟩
      rw [if_pos real_only]
      exact .inr ⟨_, rfl, (Numeric.equal_zero_binary real).trans none⟩
    · rintro (⟨_, ⟨⟩⟩ | ⟨x, number, zero⟩)
      split at number
      · rename_i real_only
        cases number
        rw [Numeric.equal_zero_binary] at zero
        exact ⟨zero, real_only⟩
      · cases number
  | message text headers =>
    rw [isTruthy, bne_eq_false_iff_eq]
    constructor
    · rintro rfl
      exact .inl ⟨text, rfl⟩
    · rintro (⟨_, ⟨⟩⟩ | ⟨_, ⟨⟩, _⟩)
      rfl
  | moment | date | time | pattern | uuid | address | interface | network =>
    refine iff_of_false Bool.noConfusion ?_
    rintro (⟨_, ⟨⟩⟩ | ⟨_, ⟨⟩, _⟩)

end Standard

namespace Value

/-- What counts as false: nothing, what has no parts, and what is zero; and an object that says so. -/
inductive IsFalsy : Value → Prop
  | null : IsFalsy .null
  | undefined : IsFalsy .undefined
  | empty {v : Value} (none : v.length? = some 0) : IsFalsy v
  | zero {v : Value} {x : Numeric} (number : v.numeric? = some x) (zero : x.equal (.whole 0) = true) : IsFalsy v
  | element {x : Fp} (zero : x.val = 0) : IsFalsy (.fp x)
  | object {o : Object Value} (untrue : o.truth = .ok false) : IsFalsy (.extended (.object o))

theorem not_isEmpty_eq_false_iff {α : Type} {xs : List α} : (!xs.isEmpty) = false ↔ some xs.length = some 0 := by
  rw [Bool.not_eq_false', List.isEmpty_iff, Option.some.injEq, List.length_eq_zero_iff]

theorem isTruthy_of_length? {v : Value} (none : v.length? = some 0) : v.isTruthy = false := by
  cases v
  case text s =>
    obtain rfl := String.length_eq_zero_iff.mp (Option.some.inj none)
    rfl
  case code c => cases c <;> cases none
  case bytes => exact not_isEmpty_eq_false_iff.mpr none
  case list => exact not_isEmpty_eq_false_iff.mpr none
  case tuple => exact not_isEmpty_eq_false_iff.mpr none
  case set => exact not_isEmpty_eq_false_iff.mpr none
  case dict => exact not_isEmpty_eq_false_iff.mpr none
  case frozenDict => exact not_isEmpty_eq_false_iff.mpr none
  case hashInput h => exact not_isEmpty_eq_false_iff.mpr none
  case extended e =>
    cases e with
    | object o => cases none
    | standard s =>
      refine Standard.isTruthy_eq_false_iff.mpr (.inl ?_)
      cases s with
      | message text headers => exact ⟨text, congrArg (Standard.message text) (Option.some.inj none)⟩
      | _ => cases none
  all_goals cases none

theorem isTruthy_of_numeric? {v : Value} {x : Numeric} (number : v.numeric? = some x)
    (zero : x.equal (.whole 0) = true) : v.isTruthy = false := by
  cases v
  case int n =>
    cases number
    exact bne_eq_false_iff_eq.mpr (beq_iff_eq.mp ((Numeric.equal_zero_ratio n 1).symm.trans zero))
  case bool b =>
    cases number
    cases b with
    | false => rfl
    | true => cases zero
  case float y =>
    cases number
    exact (Bool.not_eq_false' y.isZero).mpr ((Numeric.equal_zero_binary y).symm.trans zero)
  case extended e =>
    cases e with
    | object o => cases number
    | standard s => exact Standard.isTruthy_eq_false_iff.mpr (.inr ⟨x, number, zero⟩)
  all_goals cases number

/-- A value counts as false if and only if it is nothing, has no parts or is zero, or says so. -/
theorem isTruthy_eq_false_iff {v : Value} : v.isTruthy = false ↔ v.IsFalsy := by
  constructor
  · intro falsy
    cases v
    case null => exact .null
    case undefined => exact .undefined
    case bool b =>
      cases b with
      | false => exact .zero rfl rfl
      | true => cases falsy
    case int n => exact .zero rfl ((Numeric.equal_zero_ratio n 1).trans (beq_iff_eq.mpr (bne_eq_false_iff_eq.mp falsy)))
    case float x => exact .zero rfl ((Numeric.equal_zero_binary x).trans ((Bool.not_eq_false' x.isZero).mp falsy))
    case text s =>
      have none : s = "" := String.isEmpty_iff.mp ((Bool.not_eq_false' s.isEmpty).mp falsy)
      exact .empty (congrArg some (String.length_eq_zero_iff.mpr none))
    case bytes => exact .empty (not_isEmpty_eq_false_iff.mp falsy)
    case list => exact .empty (not_isEmpty_eq_false_iff.mp falsy)
    case tuple => exact .empty (not_isEmpty_eq_false_iff.mp falsy)
    case set => exact .empty (not_isEmpty_eq_false_iff.mp falsy)
    case dict => exact .empty (not_isEmpty_eq_false_iff.mp falsy)
    case frozenDict => exact .empty (not_isEmpty_eq_false_iff.mp falsy)
    case hashInput => exact .empty (not_isEmpty_eq_false_iff.mp falsy)
    case fp x => exact .element (bne_eq_false_iff_eq.mp falsy)
    case extended e =>
      cases e with
      | object o =>
        refine .object ?_
        cases told : o.truth with
        | error kind =>
          rw [isTruthy, Extended.isTruthy, told] at falsy
          cases falsy
        | ok b =>
          rw [isTruthy, Extended.isTruthy, told] at falsy
          exact congrArg Except.ok falsy
      | standard s =>
        rcases Standard.isTruthy_eq_false_iff.mp falsy with ⟨text, rfl⟩ | ⟨x, number, zero⟩
        · exact .empty rfl
        · exact .zero number zero
    all_goals cases falsy
  · intro falsy
    cases falsy with
    | null => rfl
    | undefined => rfl
    | empty none => exact isTruthy_of_length? none
    | zero number zero => exact isTruthy_of_numeric? number zero
    | element zero => exact bne_eq_false_iff_eq.mpr zero
    | object untrue => rw [isTruthy, Extended.isTruthy, untrue, Except.toOption, Option.getD_some]

theorem truth_eq_ok {v : Value} {b : Bool} (told : v.truth = .ok b) : b = v.isTruthy := by
  unfold truth at told
  split at told
  · cases told
  · exact (Except.ok.inj told).symm

end Value
end AccountInput
