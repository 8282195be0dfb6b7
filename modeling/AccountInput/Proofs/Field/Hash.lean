import AccountInput.Proofs.Field.Residue
import AccountInput.Proofs.Value.Equal
import Mathlib.RingTheory.Coprime.Lemmas

namespace AccountInput
namespace Fp

/-- The hash of an element or an integer. -/
def numberHash? : Value → Option Int
  | .fp x => some x.hash
  | .int n => some (intHash n)
  | _ => none

/-- The law of hashes for an element and another value: if they are equal, so are their hashes. -/
def KeepsHash (x : Fp) (v : Value) : Prop :=
  (Value.fp x).equal v = true → numberHash? (.fp x) = numberHash? v

theorem equal_int_iff {x : Fp} {n : Int} : (Value.fp x).equal (.int n) = true ↔ x = ofInt n := by
  rw [Value.equal, Value.agrees_fp_int, Value.residueOf, Bool.not_false, Bool.true_or, Bool.and_true, beq_iff_eq]

theorem sameKey_int_iff {x : Fp} {n : Int} :
    (Value.fp x).sameKey (.int n) = true ↔ x = ofInt n ∧ (x.hash : Int) = intHash n := by
  rw [Value.sameKey, Value.agrees_fp_int, Value.residueOf, Bool.not_true, Bool.false_or, Bool.and_eq_true,
    beq_iff_eq, beq_iff_eq]

theorem hash_ofInt (n : Int) : ((ofInt n).hash : Int) = n % modulus % hashModulus := by
  rw [hash, Int.natCast_emod, ofInt_val_eq]

theorem intHash_of_nonneg {n : Int} (natural : 0 ≤ n) : intHash n = n % hashModulus := by
  obtain ⟨k, rfl⟩ := Int.eq_ofNat_of_zero_le natural
  have signed : (k : Int).sign * (k % hashModulus : Nat) = (k % hashModulus : Nat) := by
    cases k with
    | zero => rfl
    | succ k => exact Int.one_mul _
  have other : ((k % hashModulus : Nat) : Int) ≠ -1 := by omega
  rw [intHash, Int.natAbs_natCast, signed, if_neg other, Int.natCast_emod]

/-- The hash of a negative integer is zero or negative. -/
theorem eq_intHash_of_neg {n h : Int} (negative : n < 0) (natural : 0 ≤ h) :
    h = intHash n ↔ h = 0 ∧ (hashModulus : Int) ∣ n := by
  rw [intHash, Int.sign_eq_neg_one_of_neg negative, Int.natCast_dvd, Nat.dvd_iff_mod_eq_zero]
  split <;> omega

theorem isCoprime_hashModulus : IsCoprime (hashModulus : Int) (modulus : Int) := by
  rw [Nat.isCoprime_iff_coprime]
  decide

/-- Reducing takes away a multiple of the modulus, which shares no divisor with that of hashes. -/
theorem dvd_sub_emod_iff (n : Int) : (hashModulus : Int) ∣ n - n % modulus ↔ (hashModulus : Int) ∣ n / modulus := by
  have taken : n - n % modulus = modulus * (n / modulus) := by
    rw [sub_eq_iff_eq_add, Int.mul_ediv_add_emod]
  rw [taken]
  exact ⟨isCoprime_hashModulus.dvd_of_dvd_mul_left, fun divides => divides.mul_left _⟩

theorem hash_ofInt_eq_iff (n : Int) : ((ofInt n).hash : Int) = intHash n ↔
    (hashModulus : Int) ∣ n / modulus ∧ (0 ≤ n ∨ (hashModulus : Int) ∣ n) := by
  rw [hash_ofInt, ← dvd_sub_emod_iff]
  by_cases natural : 0 ≤ n
  · rw [intHash_of_nonneg natural, eq_comm, Int.emod_eq_emod_iff_emod_sub_eq_zero, ← Int.dvd_iff_emod_eq_zero]
    exact (and_iff_left (.inl natural)).symm
  · have reduced : 0 ≤ n % modulus % hashModulus := Int.emod_nonneg _ (by decide)
    rw [eq_intHash_of_neg (Int.not_le.mp natural) reduced, ← Int.dvd_iff_emod_eq_zero, or_iff_right natural]
    exact and_congr_left fun whole => (dvd_sub_right whole).symm

theorem eq_ofInt_iff {x : Fp} {n : Int} : x = ofInt n ↔ n % modulus = x.val := by
  rw [← ofInt_val_eq, Int.natCast_inj]
  exact ⟨fun same => congrArg Fp.val same.symm, fun number => ext number.symm⟩

/-- An element keeps the law of hashes with elements. With an integer that reduces to it, it keeps the law
exactly if the hash modulus divides the quotient of the reduction, and the integer too if that is negative.
Such an integer is the same key of a dictionary as the element; any other is another key, although the two
are equal. -/
theorem keepsHash_iff (x : Fp) (n : Int) :
    (∀ y : Fp, x.KeepsHash (.fp y)) ∧
    (x.KeepsHash (.int n) ↔
      n % modulus ≠ x.val ∨ (hashModulus : Int) ∣ n / modulus ∧ (0 ≤ n ∨ (hashModulus : Int) ∣ n)) ∧
    ((Value.fp x).sameKey (.int n) = true ↔
      n % modulus = x.val ∧ (hashModulus : Int) ∣ n / modulus ∧ (0 ≤ n ∨ (hashModulus : Int) ∣ n)) := by
  refine ⟨fun y equal => ?_, ?_, ?_⟩
  · rw [Value.equal_fp, beq_iff_eq] at equal
    rw [equal]
  · rw [KeepsHash, equal_int_iff, eq_ofInt_iff, ← imp_iff_not_or]
    refine imp_congr_right fun number => ?_
    rw [eq_ofInt_iff.mpr number, ← hash_ofInt_eq_iff]
    exact Option.some_inj
  · rw [sameKey_int_iff, eq_ofInt_iff]
    refine and_congr_right fun number => ?_
    rw [eq_ofInt_iff.mpr number, hash_ofInt_eq_iff]

/-- Minus one is equal to the last element, and hashes otherwise. -/
theorem not_keepsHash_minusOne :
    (Value.fp (ofInt (-1))).equal (.int (-1)) = true ∧
    numberHash? (.fp (ofInt (-1))) = some 820210167758441701 ∧ numberHash? (.int (-1)) = some (-2) ∧
    ¬ ∀ (x : Fp) (n : Int), x.KeepsHash (.int n) := by
  have equal : (Value.fp (ofInt (-1))).equal (.int (-1)) = true :=
    equal_int_iff.mpr rfl
  have hash : numberHash? (.fp (ofInt (-1))) = some 820210167758441701 := by decide
  have hash' : numberHash? (.int (-1)) = some (-2) := by decide
  refine ⟨equal, hash, hash', fun kept => ?_⟩
  have same := kept (ofInt (-1)) (-1) equal
  rw [hash, hash'] at same
  cases same

end Fp
end AccountInput
