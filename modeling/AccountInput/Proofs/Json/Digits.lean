import Mathlib.Algebra.Group.Nat.Defs
import Mathlib.Data.List.Basic
import AccountInput.Json.Grammar

namespace AccountInput
namespace Json

theorem digitsValue_eq_ofDigitChars (ds : List Char) : digitsValue ds = Nat.ofDigitChars 10 ds 0 := by
  rw [digitsValue, Decimal.ofDigits, List.foldl_map]
  rfl

theorem digitsValue_append (ds es : List Char) :
    digitsValue (ds ++ es) = 10 ^ es.length * digitsValue ds + digitsValue es := by
  simp only [digitsValue_eq_ofDigitChars, Nat.ofDigitChars_append]
  exact Nat.ofDigitChars_eq_ofDigitChars_zero

theorem digitsValue_zeros (n : Nat) : digitsValue (List.replicate n '0') = 0 := by
  rw [digitsValue_eq_ofDigitChars, Nat.ofDigitChars_replicate_zero, Nat.mul_zero]

theorem digitsValue_toDigits (n : Nat) : digitsValue (Nat.toDigits 10 n) = n := by
  rw [digitsValue_eq_ofDigitChars, Nat.ofDigitChars_toDigits (by decide) (by decide)]

theorem digitsValue_lt {ds : List Char} (digits : ∀ c ∈ ds, isDigit c = true) : digitsValue ds < 10 ^ ds.length := by
  induction ds with
  | nil => exact Nat.one_pos
  | cons c ds ih =>
    obtain ⟨first, later⟩ := List.forall_mem_cons.mp digits
    have rest := ih later
    have digit : digitsValue [c] < 10 := by
      rw [isDigit, Bool.and_eq_true, decide_eq_true_iff, decide_eq_true_iff] at first
      have most : c.toNat ≤ '9'.toNat := first.2
      have spelled : digitsValue [c] = c.toNat - '0'.toNat := Nat.zero_add _
      have nine : '9'.toNat = 57 := rfl
      have zero : '0'.toNat = 48 := rfl
      omega
    have split := digitsValue_append [c] ds
    rw [List.singleton_append] at split
    rw [split, List.length_cons, Nat.pow_succ]
    have scaled : 10 ^ ds.length * digitsValue [c] ≤ 10 ^ ds.length * 9 := Nat.mul_le_mul_left _ (by omega)
    omega

theorem areDigits_toDigits (n : Nat) : AreDigits (Nat.toDigits 10 n) :=
  ⟨Nat.toDigits_ne_nil, fun _ member => Nat.isDigit_of_mem_toDigits (by decide) (by decide) member⟩

/-- A natural is written without zeros before it. -/
theorem areWhole_toDigits (n : Nat) : AreWhole (Nat.toDigits 10 n) := by
  refine ⟨areDigits_toDigits n, ?_⟩
  induction n using Nat.strongRecOn with
  | ind n ih =>
    intro zero
    rw [Nat.toDigits_eq_if (by decide)] at zero ⊢
    split
    · rename_i small
      rw [if_pos small] at zero
      rw [Option.some.inj zero]
    · rename_i large
      rw [if_neg large, List.head?_append_of_ne_nil _ Nat.toDigits_ne_nil] at zero
      -- the digits before the last one would be a zero alone, and the number would have one digit
      have alone := ih (n / 10) (by omega) zero
      have nothing := digitsValue_toDigits (n / 10)
      rw [alone, show digitsValue ['0'] = 0 from rfl] at nothing
      omega

theorem toList_toString (n : Nat) : (toString n).toList = Nat.toDigits 10 n := Nat.toList_repr

end Json
end AccountInput
