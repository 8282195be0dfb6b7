import AccountInput.Number.Double

namespace AccountInput
namespace Double

def one : Double := .finite false (Nat.pow 2 52) (-52) (by decide)

theorem orderRatio_finite (negative : Bool) (m : Nat) (e : Int) (c : Canonical m e) (n : Int) :
    (finite negative m e c).orderRatio n 1 = some .eq ↔
      (if negative then -((scaleDown m 1 (-e)).1 : Int) else (scaleDown m 1 (-e)).1) = n * (scaleDown m 1 (-e)).2 := by
  simp only [orderRatio, ratio?, Option.some.injEq, Std.LawfulEqCmp.compare_eq_iff_eq, Int.natCast_one, Int.mul_one]

theorem scaleDown_pos (m : Nat) (e : Int) : 0 < (scaleDown m 1 e).2 := by
  rw [scaleDown]
  split
  · exact Nat.mul_pos Nat.one_pos (Nat.pow_pos (by decide))
  · exact Nat.one_pos

theorem scaleDown_eq_zero {m : Nat} {e : Int} (none : (scaleDown m 1 e).1 = 0) : m = 0 := by
  rw [scaleDown] at none
  split at none
  · exact none
  · exact (Nat.mul_eq_zero.mp none).resolve_right (Nat.pos_iff_ne_zero.mp (Nat.pow_pos (by decide)))

theorem eq_zero_of_orderRatio {x : Double} (same : x.orderRatio 0 1 = some .eq) : ∃ negative, x = zero negative := by
  cases x with
  | nan => cases same
  | infinite negative => cases negative <;> cases same
  | finite negative m e c =>
    have none := (orderRatio_finite negative m e c 0).mp same
    have nothing : (scaleDown m 1 (-e)).1 = 0 := by
      split at none <;> omega
    have empty := scaleDown_eq_zero nothing
    subst empty
    obtain ⟨_, _, _, lowest⟩ := c
    have least : e = -1074 := lowest.resolve_left (by decide)
    subst least
    exact ⟨negative, rfl⟩

theorem eq_one_of_orderRatio {x : Double} (same : x.orderRatio 1 1 = some .eq) : x = one := by
  cases x with
  | nan => cases same
  | infinite negative => cases negative <;> cases same
  | finite negative m e c =>
    have whole := (orderRatio_finite negative m e c 1).mp same
    have positive := scaleDown_pos m (-e)
    have plain : negative = false := by
      cases negative with
      | false => rfl
      | true =>
        simp only [if_true] at whole
        omega
    subst plain
    have parts : (scaleDown m 1 (-e)).1 = (scaleDown m 1 (-e)).2 := by
      simp only [Bool.false_eq_true, if_false] at whole
      omega
    obtain ⟨bound, low, high, full⟩ := id c
    have exponent : m = 2 ^ 52 ∧ e = -52 := by
      rw [scaleDown] at parts
      split at parts
      · rename_i down
        have power : m = 2 ^ (-e).toNat := parts.trans (Nat.one_mul _)
        have below : (-e).toNat < 53 := (Nat.pow_lt_pow_iff_right (by decide)).mp (power ▸ bound)
        have above : 2 ^ 52 ≤ m := full.resolve_right (by omega)
        have least : 52 ≤ (-e).toNat := (Nat.pow_le_pow_iff_right (by decide)).mp (power ▸ above)
        have exact : (-e).toNat = 52 := by omega
        rw [exact] at power
        exact ⟨power, by omega⟩
      · rename_i up
        have factor : 2 ^ (-(-e)).toNat = 1 := Nat.eq_one_of_mul_eq_one_left parts
        have zero := (Nat.pow_eq_one.mp factor).resolve_left (by decide)
        omega
    obtain ⟨rfl, rfl⟩ := exponent
    rfl

theorem orderRatio_zero (negative : Bool) : (zero negative).orderRatio 0 1 = some .eq := by
  cases negative <;> decide +kernel

theorem orderRatio_one : one.orderRatio 1 1 = some .eq := by decide

end Double
end AccountInput
