import AccountInput.Checked.Field
import AccountInput.Proofs.Field.Prime
import Mathlib.Algebra.GroupWithZero.Basic

namespace AccountInput
namespace Fp

theorem euclid_fst (a b : Nat) (s t : Int) : (euclid a b s t).1 = Nat.gcd a b := by
  fun_induction euclid a b s t with
  | case1 a s t => rw [Nat.gcd_zero_right]
  | case2 a b s t _ ih => rw [ih, Nat.gcd_comm, ← Nat.gcd_rec, Nat.gcd_comm]

/-- Each remainder stays the multiple of the one number that its factor says. -/
theorem euclid_snd {m : Nat} {z : ZMod m} {a b : Nat} {s t : Int} (first : s * z = a) (second : t * z = b) :
    (euclid a b s t).2 * z = ((euclid a b s t).1 : ZMod m) := by
  fun_induction euclid a b s t with
  | case1 a s t => exact first
  | case2 a b s t _ ih =>
    apply ih second
    have division : ((b * (a / b) + a % b : Nat) : ZMod m) = a := congrArg Nat.cast (Nat.div_add_mod a b)
    rw [Nat.cast_add, Nat.cast_mul] at division
    rw [Int.cast_sub, Int.cast_mul, sub_mul, first, mul_assoc, second, Int.cast_natCast, sub_eq_iff_eq_add,
      ← division, mul_comm, add_comm]

theorem coprime_iff {x : Fp} : Nat.Coprime x.val modulus ↔ x.val ≠ 0 := by
  rw [Nat.coprime_comm, modulus_prime.coprime_iff_not_dvd, not_iff_not]
  refine ⟨fun divides => Nat.eq_zero_of_dvd_of_lt divides x.lt_modulus, fun absent => ?_⟩
  rw [absent]
  exact Nat.dvd_zero modulus

theorem residue_ne_zero_iff {x : Fp} : x.residue ≠ 0 ↔ x.val ≠ 0 := by
  rw [← residue_zero, residue_injective.ne_iff]
  exact not_congr ⟨congrArg Fp.val, fun absent => ext absent⟩

theorem inverse?_eq (x : Fp) : x.inverse? =
    if Nat.Coprime x.val modulus then some (ofInt (euclid x.val modulus 1 0).2) else none := by
  have divisor := euclid_fst x.val modulus 1 0
  unfold inverse?
  split
  · rename_i s found
    rw [found] at divisor ⊢
    exact (if_pos divisor.symm).symm
  · rename_i other
    exact (if_neg fun coprime => other _ (Prod.ext (divisor.trans coprime) rfl)).symm

theorem exists_inverse?_of_coprime {x : Fp} (coprime : Nat.Coprime x.val modulus) :
    ∃ y, x.inverse? = some y ∧ y.residue = x.residue⁻¹ := by
  have divisor : (euclid x.val modulus 1 0).1 = 1 := (euclid_fst _ _ _ _).trans coprime
  have first : ((1 : Int) : ZMod modulus) * x.residue = x.val := by rw [Int.cast_one, one_mul, residue]
  have second : ((0 : Int) : ZMod modulus) * x.residue = modulus := by
    rw [Int.cast_zero, zero_mul, ZMod.natCast_self]
  have multiple := euclid_snd first second
  rw [divisor, Nat.cast_one] at multiple
  refine ⟨_, (inverse?_eq x).trans (if_pos coprime), ?_⟩
  rw [residue_ofInt]
  exact eq_inv_of_mul_eq_one_left multiple

theorem pow?_of_nonneg (x : Fp) (n : Nat) : x.pow? n = some (x.natPow n) := if_pos (Int.natCast_nonneg n)

theorem exists_pow?_of_ne_zero {x : Fp} (present : x.val ≠ 0) (e : Int) :
    ∃ y, x.pow? e = some y ∧ y.residue = x.residue ^ e := by
  cases e with
  | ofNat n =>
    refine ⟨x.natPow n, pow?_of_nonneg x n, ?_⟩
    rw [residue_natPow, Int.ofNat_eq_natCast, zpow_natCast]
  | negSucc n =>
    obtain ⟨y, found, residue⟩ := exists_inverse?_of_coprime (coprime_iff.mpr present)
    refine ⟨y.natPow (n + 1), ?_, ?_⟩
    · rw [pow?, if_neg (Int.negSucc_not_nonneg n).mp, found]
      rfl
    · rw [residue_natPow, residue, zpow_negSucc, inv_pow]

theorem power_int (x : Fp) (e : Int) : x.power (.int e) .null =
    match x.pow? e with
    | some y => .ok y
    | none => .error Fault.badValue := rfl

theorem power_of_int? (x : Fp) {v : Value} {e : Int} (found : v.int? = some e) :
    x.power v .null = x.power (.int e) .null := by
  rw [power, found]
  rfl

theorem power_of_pow? {x y : Fp} {e : Int} (found : x.pow? e = some y) : x.power (.int e) .null = .ok y := by
  rw [power_int, found]

theorem power_of_nonneg (x : Fp) {e : Int} (natural : 0 ≤ e) :
    x.power (.int e) .null = .ok (x.natPow e.toNat) :=
  power_of_pow? (if_pos natural)

theorem power_zero_of_neg {e : Int} (negative : e < 0) : zero.power (.int e) .null = .error .badValue := by
  have absent : zero.inverse? = none :=
    (inverse?_eq zero).trans (if_neg fun coprime => coprime_iff.mp coprime rfl)
  have refused : zero.pow? e = none := by
    rw [pow?, if_neg (Int.not_le.mpr negative), absent]
    rfl
  rw [power_int, refused]

theorem power_zero_eq_error_iff {e : Int} : zero.power (.int e) .null = .error .badValue ↔ e < 0 := by
  refine ⟨fun refused => ?_, power_zero_of_neg⟩
  by_contra natural
  rw [power_of_nonneg zero (Int.not_lt.mp natural)] at refused
  cases refused

theorem exists_power_zero_iff {e : Int} : (∃ y, zero.power (.int e) .null = .ok y) ↔ 0 ≤ e := by
  refine ⟨fun ⟨y, run⟩ => ?_, fun natural => ⟨_, power_of_nonneg zero natural⟩⟩
  by_contra negative
  rw [power_zero_of_neg (Int.not_le.mp negative)] at run
  cases run

/-- An element that is not zero has all powers with integer exponents, the natural ones by repeated
multiplication, and they obey the laws of exponents. Zero has no negative powers. -/
theorem power_laws :
    (∀ x : Fp, x.val ≠ 0 → ∃ p : Int → Fp, (∀ e, x.power (.int e) .null = .ok (p e)) ∧
      (∀ n : Nat, (p n).val = x.val ^ n % modulus) ∧
      (∀ e, combine (· * ·) (.fp (p e)) (.fp (p (-e))) = .ok one) ∧
      (∀ e f, combine (· * ·) (.fp (p e)) (.fp (p f)) = .ok (p (e + f))) ∧
      ∀ e f, (p e).power (.int f) .null = .ok (p (e * f))) ∧
    (∀ e, zero.power (.int e) .null = .error .badValue ↔ e < 0) ∧
    (∀ e, (∃ y, zero.power (.int e) .null = .ok y) ↔ 0 ≤ e) ∧
    zero.power (.int 0) .null = .ok one := by
  refine ⟨fun x present => ?_, fun _ => power_zero_eq_error_iff, fun _ => exists_power_zero_iff, ?_⟩
  · choose p found residue using exists_pow?_of_ne_zero present
    have unit : x.residue ≠ 0 := residue_ne_zero_iff.mpr present
    have natural (n : Nat) : p n = x.natPow n := Option.some.inj ((found n).symm.trans (pow?_of_nonneg x n))
    have times (e f : Int) : p e * p f = p (e + f) := by
      apply residue_injective
      rw [residue_mul, residue, residue, residue, zpow_add₀ unit]
    have start : p 0 = one := by
      apply residue_injective
      rw [residue, zpow_zero, residue_one]
    refine ⟨p, fun e => power_of_pow? (found e), fun n => ?_, fun e => ?_, fun e f => ?_, fun e f => ?_⟩
    · rw [natural, natPow_val]
    · rw [combine_fp, times, add_neg_cancel, start]
    · rw [combine_fp, times]
    · have present' : (p e).val ≠ 0 := by
        rw [← residue_ne_zero_iff, residue]
        exact zpow_ne_zero e unit
      obtain ⟨y, found', residue'⟩ := exists_pow?_of_ne_zero present' f
      have same : y = p (e * f) := by
        apply residue_injective
        rw [residue', residue, residue, zpow_mul]
      rw [power_of_pow? found', same]
  · have empty : zero.natPow 0 = one := ext ((natPow_val zero 0).trans rfl)
    exact (power_of_nonneg zero le_rfl).trans (congrArg Except.ok empty)

/-- The inverse of two, and its power to minus three, which is eight. -/
theorem power_laws_half : (⟨2, by decide⟩ : Fp).val ≠ 0 ∧ ∃ half : Fp,
    (⟨2, by decide⟩ : Fp).power (.int (-1)) .null = .ok half ∧
    combine (· * ·) (.fp ⟨2, by decide⟩) (.fp half) = .ok one ∧
    half.power (.int (-3)) .null = .ok ⟨8, by decide⟩ := by
  obtain ⟨p, run, natural, inverse, _, nested⟩ := power_laws.1 ⟨2, by decide⟩ (by decide)
  have two : p 1 = ⟨2, by decide⟩ := ext (natural 1)
  have eight : p 3 = ⟨8, by decide⟩ := ext (natural 3)
  refine ⟨by decide, p (-1), run (-1), ?_, ?_⟩
  · exact two ▸ inverse 1
  · exact eight ▸ nested (-1) (-3)

end Fp
end AccountInput
