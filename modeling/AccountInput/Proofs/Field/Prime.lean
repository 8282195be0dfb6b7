import AccountInput.Proofs.Field.Residue
import Mathlib.Data.List.Prime
import Mathlib.NumberTheory.LucasPrimality
import Mathlib.Tactic.NormNum.Prime

namespace AccountInput
namespace Fp

/-- The powers of `a` modulo `p` return to one at `p - 1`, the product of the factors, and at no quotient of
it by a factor. -/
def HasFullPeriod (p a : Nat) (factors : List Nat) : Prop :=
  factors.prod = p - 1 ∧ powMod a (p - 1) p = 1 ∧ ∀ q ∈ factors, powMod a ((p - 1) / q) p ≠ 1

instance (p a : Nat) (factors : List Nat) : Decidable (HasFullPeriod p a factors) :=
  inferInstanceAs (Decidable (_ ∧ _ ∧ _))

theorem pow_eq_one_iff_powMod {p : Nat} (other : p ≠ 1) (a e : Nat) :
    (a : ZMod p) ^ e = 1 ↔ powMod a e p = 1 := by
  rw [powMod_eq, ← Nat.cast_pow, ← Nat.cast_one, ZMod.natCast_eq_natCast_iff', Nat.one_mod_eq_one.mpr other]

theorem HasFullPeriod.prime {p a : Nat} {factors : List Nat} (period : HasFullPeriod p a factors)
    (primes : ∀ q ∈ factors, q.Prime) : p.Prime := by
  obtain ⟨product, whole, parts⟩ := period
  have other : p ≠ 1 := by
    rintro rfl
    rw [powMod_eq, Nat.mod_one] at whole
    exact Nat.zero_ne_one whole
  refine lucas_primality p a ((pow_eq_one_iff_powMod other _ _).mpr whole) fun q prime divides => ?_
  rw [← product] at divides
  obtain ⟨r, member, divides⟩ := prime.prime.dvd_prod_iff.mp divides
  have same : q = r := (Nat.prime_dvd_prime_iff_eq prime (primes r member)).mp divides
  subst same
  exact fun early => parts q member ((pow_eq_one_iff_powMod other _ _).mp early)

/-- The factors of the modulus less one that are large, those of them less one, and so on. -/
theorem periods :
    HasFullPeriod 22160661629 3 [2, 2, 7, 19, 41655379] ∧
    HasFullPeriod 325086459374267 2 [2, 509, 413527, 772231] ∧
    HasFullPeriod 417677162933 2 [2, 2, 59, 1973, 897019] ∧
    HasFullPeriod 539204044132271846773 5 (417677162933 :: [2, 2, 3, 3, 3, 3, 3, 89, 14923]) ∧
    HasFullPeriod 8999194758858563409123804352480028797519453 2
      (22160661629 :: 325086459374267 :: [2, 2, 3, 3, 3, 3, 11, 2531, 115603, 1197907]) ∧
    HasFullPeriod modulus 5
      (539204044132271846773 :: 8999194758858563409123804352480028797519453 :: 3 :: 463 ::
        List.replicate 32 2) := by
  decide +kernel

theorem modulus_prime : modulus.Prime := by
  obtain ⟨of11, of15, of12, of21, of43, of77⟩ := periods
  have digits11 : Nat.Prime 22160661629 := of11.prime (by norm_num)
  have digits15 : Nat.Prime 325086459374267 := of15.prime (by norm_num)
  have digits12 : Nat.Prime 417677162933 := of12.prime (by norm_num)
  have digits21 : Nat.Prime 539204044132271846773 :=
    of21.prime (List.forall_mem_cons.mpr ⟨digits12, by norm_num⟩)
  have digits43 : Nat.Prime 8999194758858563409123804352480028797519453 :=
    of43.prime (List.forall_mem_cons.mpr ⟨digits11, List.forall_mem_cons.mpr ⟨digits15, by norm_num⟩⟩)
  refine of77.prime (List.forall_mem_cons.mpr ⟨digits21, List.forall_mem_cons.mpr ⟨digits43, ?_⟩⟩)
  refine List.forall_mem_cons.mpr ⟨Nat.prime_three, List.forall_mem_cons.mpr ⟨by norm_num, ?_⟩⟩
  intro q member
  rw [List.eq_of_mem_replicate member]
  exact Nat.prime_two

instance : Fact modulus.Prime := ⟨modulus_prime⟩

end Fp
end AccountInput
