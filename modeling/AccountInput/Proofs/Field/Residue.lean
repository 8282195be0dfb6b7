import AccountInput.Field
import Mathlib.Data.ZMod.Basic

namespace AccountInput
namespace Fp

/-- The residue class of an element. -/
def residue (x : Fp) : ZMod modulus := x.val

theorem residue_injective : Function.Injective residue := by
  intro x y same
  have congruent := (ZMod.natCast_eq_natCast_iff' x.val y.val modulus).mp same
  rw [Nat.mod_eq_of_lt x.lt_modulus, Nat.mod_eq_of_lt y.lt_modulus] at congruent
  exact ext congruent

theorem ofInt_val_eq (n : Int) : ((ofInt n).val : Int) = n % modulus := by
  have positive : (0 : Int) < modulus := Int.natCast_pos.mpr modulus_pos
  exact Int.toNat_of_nonneg (Int.emod_nonneg n positive.ne')

@[simp] theorem residue_ofInt (n : Int) : (ofInt n).residue = n := by
  have cast : (ofInt n).residue = (((ofInt n).val : Int) : ZMod modulus) := (Int.cast_natCast _).symm
  rw [cast, ofInt_val_eq]
  exact ZMod.intCast_mod n modulus

@[simp] theorem residue_zero : zero.residue = 0 := Nat.cast_zero

@[simp] theorem residue_one : one.residue = 1 := Nat.cast_one

@[simp] theorem residue_add (x y : Fp) : (x + y).residue = x.residue + y.residue := by
  change (ofInt (x.val + y.val)).residue = x.residue + y.residue
  rw [residue_ofInt, Int.cast_add, Int.cast_natCast, Int.cast_natCast]
  rfl

@[simp] theorem residue_mul (x y : Fp) : (x * y).residue = x.residue * y.residue := by
  change (ofInt (x.val * y.val)).residue = x.residue * y.residue
  rw [residue_ofInt, Int.cast_mul, Int.cast_natCast, Int.cast_natCast]
  rfl

theorem powMod_eq (b e m : Nat) : powMod b e m = b ^ e % m := by
  have square (b k : Nat) : (b * b % m) ^ k % m = b ^ (2 * k) % m := by
    rw [← Nat.pow_mod, ← pow_two, ← pow_mul]
  fun_induction powMod b e m with
  | case1 b => rw [pow_zero]
  | case2 b e _ half odd ih =>
    have whole : e = 2 * (e / 2) + 1 := by omega
    have value : half = b ^ (2 * (e / 2)) % m := ih.trans (square b (e / 2))
    rw [value, Nat.mul_mod_mod, ← pow_succ', ← whole]
  | case3 b e _ half even ih =>
    have whole : e = 2 * (e / 2) := by omega
    have value : half = b ^ (2 * (e / 2)) % m := ih.trans (square b (e / 2))
    rw [value, ← whole]

@[simp] theorem residue_natPow (x : Fp) (e : Nat) : (x.natPow e).residue = x.residue ^ e := by
  rw [natPow, residue_ofInt, powMod_eq, Int.cast_natCast, ZMod.natCast_mod, Nat.cast_pow]
  rfl

theorem natPow_val (x : Fp) (e : Nat) : (x.natPow e).val = x.val ^ e % modulus := by
  have value := ofInt_val_eq (x.val ^ e % modulus : Nat)
  rw [← Int.natCast_emod, Nat.mod_mod] at value
  rw [natPow, powMod_eq]
  exact Int.natCast_inj.mp value

end Fp
end AccountInput
