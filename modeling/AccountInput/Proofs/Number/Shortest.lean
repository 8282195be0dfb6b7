import AccountInput.Number.Shortest
import AccountInput.Proofs.Number.Rounding

namespace AccountInput
namespace Double

variable {num den m : ℕ} {e : ℤ} {v : ℚ}

theorem ratio_comparisons (num : ℕ) (positive : 0 < den) (k : ℕ) :
    (k * den ≤ num ↔ (k : ℚ) ≤ num / den) ∧ (num ≤ k * den ↔ (num : ℚ) / den ≤ k) ∧
      (k * den < num ↔ (k : ℚ) < num / den) ∧ (num < k * den ↔ (num : ℚ) / den < k) := by
  have unit : (0 : ℚ) < den := by exact_mod_cast positive
  rw [le_div_iff₀ unit, div_le_iff₀ unit, lt_div_iff₀ unit, div_lt_iff₀ unit]
  norm_cast

theorem roundingBounds_cast (positive : 0 < m) (e : ℤ) :
    ((roundingBounds m e).1 : ℚ) = 4 * m - (if m = 2 ^ 52 ∧ e ≠ -1074 then 1 else 2) ∧
      ((roundingBounds m e).2 : ℚ) = 4 * m + 2 := by
  have power : Nat.pow 2 52 = 2 ^ 52 := rfl
  rw [roundingBounds, power]
  split
  all_goals
    refine ⟨?_, by push_cast; rfl⟩
    dsimp only
    rw [Nat.cast_sub (by omega)]
    push_cast
    rfl

theorem readsBack_iff (positive : 0 < m) (e : ℤ) (c : ℕ) (q : ℤ) :
    readsBack m e c q = true ↔ RoundsTo m e (c * 10 ^ q) := by
  obtain ⟨unit, scaled⟩ := scaleDownTen_ratio c Nat.one_pos (-q)
  obtain ⟨unit', scaled'⟩ := scaleDown_ratio (scaleDownTen c 1 (-q)).1 unit (e - 2)
  have quarters : (2 : ℚ) ^ (e - 2) = 2 ^ e / 4 := by
    rw [zpow_sub₀ (by norm_num)]
    norm_num
  rw [scaled, Nat.cast_one, div_one, zpow_neg, div_inv_eq_mul, quarters, div_div_eq_mul_div, mul_comm,
    mul_div_assoc] at scaled'
  obtain ⟨least, greatest⟩ := roundingBounds_cast positive e
  rw [readsBack]
  dsimp only
  generalize (scaleDown (scaleDownTen c 1 (-q)).1 (scaleDownTen c 1 (-q)).2 (e - 2)).1 = n at scaled' ⊢
  generalize (scaleDown (scaleDownTen c 1 (-q)).1 (scaleDownTen c 1 (-q)).2 (e - 2)).2 = d at unit' scaled' ⊢
  obtain ⟨low, _, above, _⟩ := ratio_comparisons n unit' (roundingBounds m e).1
  obtain ⟨_, high, _, below⟩ := ratio_comparisons n unit' (roundingBounds m e).2
  rw [scaled', least] at low above
  rw [scaled', greatest] at high below
  split
  · rename_i even
    rw [Bool.and_eq_true, decide_eq_true_iff, decide_eq_true_iff, low, high]
    constructor
    · rintro ⟨low, high⟩
      refine ⟨⟨?_, by linarith, fun odd => by omega⟩, fun full other => ?_⟩
      · split at low <;> linarith
      · rw [if_pos ⟨full, other⟩] at low
        linarith
    · rintro ⟨⟨low, high, _⟩, below⟩
      refine ⟨?_, by linarith⟩
      split
      · rename_i full
        linarith [below full.1 full.2]
      · linarith
  · rename_i odd
    have odd : m % 2 = 1 := by omega
    have other : m ≠ 2 ^ 52 := by
      rintro rfl
      exact absurd odd (by decide)
    rw [Bool.and_eq_true, decide_eq_true_iff, decide_eq_true_iff, above, below, if_neg fun full => other full.1]
    constructor
    · rintro ⟨above, below⟩
      exact ⟨⟨by linarith, by linarith, fun _ => ⟨by linarith, by linarith⟩⟩, (absurd · other)⟩
    · rintro ⟨⟨_, _, strict⟩, _⟩
      obtain ⟨above, below⟩ := strict odd
      exact ⟨by linarith, by linarith⟩

theorem onGrid_eq_some {c : ℕ} {q : ℤ} (positive : 0 < m) (found : onGrid m e q = some c) :
    RoundsTo m e (c * 10 ^ q) := by
  rw [onGrid] at found
  dsimp only at found
  generalize (if roundedQuotient _ _ = _ then _ else _ : ℕ) = far at found
  split at found
  · rename_i reads
    cases found
    exact (readsBack_iff positive e _ q).mp reads
  · split at found
    · rename_i reads
      cases found
      exact (readsBack_iff positive e _ q).mp reads
    · cases found

/-- On a grid that is fine enough the point nearest to a number reads back as it. -/
theorem exists_onGrid {q : ℤ} (c : Canonical m e) (positive : 0 < m) (fine : (10 : ℚ) ^ q * 10 ^ 16 ≤ m * 2 ^ e) :
    ∃ c, onGrid m e q = some c := by
  obtain ⟨bound, _⟩ := canonical_bounds c
  have bound : (m : ℚ) + 1 ≤ 2 ^ 53 := by exact_mod_cast bound
  obtain ⟨unit, scaled⟩ := scaleDown_ratio m Nat.one_pos (-e)
  obtain ⟨unit', scaled'⟩ := scaleDownTen_ratio (scaleDown m 1 (-e)).1 unit q
  have near := nearest_roundedQuotient (scaleDownTen (scaleDown m 1 (-e)).1 (scaleDown m 1 (-e)).2 q).1 unit'
  rw [scaled', scaled, Nat.cast_one, div_one, zpow_neg, div_inv_eq_mul] at near
  rw [onGrid]
  dsimp only
  generalize roundedQuotient _ _ = k at near ⊢
  have grid : (0 : ℚ) < 10 ^ q := zpow_pos (by norm_num) q
  have gap : (0 : ℚ) < 2 ^ e := zpow_pos (by norm_num) e
  have low := near.low
  have high := near.high
  rw [le_div_iff₀ grid] at low
  rw [div_le_iff₀ grid] at high
  have reads : readsBack m e k q = true := by
    have widest : (m : ℚ) * 2 ^ e ≤ (2 ^ 53 - 1) * 2 ^ e := mul_le_mul_of_nonneg_right (by linarith) gap.le
    rw [readsBack_iff positive]
    have above : (m : ℚ) - 1 / 2 < k * 10 ^ q / 2 ^ e := by
      rw [lt_div_iff₀ gap]
      linarith
    have below : (k : ℚ) * 10 ^ q / 2 ^ e < m + 1 / 2 := by
      rw [div_lt_iff₀ gap]
      linarith
    refine ⟨⟨above.le, below.le, fun _ => ⟨above, below⟩⟩, fun full _ => ?_⟩
    subst full
    push_cast at fine high ⊢
    rw [le_div_iff₀ gap]
    linarith
  rw [if_pos reads]
  exact ⟨k, rfl⟩

theorem decimalPoint_spec (some : num ≠ 0) (positive : 0 < den) (low : -1099 < (num.log2 : ℤ) - den.log2)
    (high : (num.log2 : ℤ) - den.log2 < 1099) :
    (10 : ℚ) ^ (decimalPoint num den - 1) ≤ num / den ∧ (num : ℚ) / den < 10 ^ decimalPoint num den := by
  have below (k : ℤ) : (scaleDownTen num den k).1 < (scaleDownTen num den k).2 ↔ (num : ℚ) / den < 10 ^ k := by
    obtain ⟨unit, scaled⟩ := scaleDownTen_ratio num positive k
    obtain ⟨_, _, _, less⟩ := ratio_comparisons (scaleDownTen num den k).1 unit 1
    rw [one_mul, scaled, Nat.cast_one, div_lt_one₀ (zpow_pos (by norm_num) k)] at less
    exact less
  obtain ⟨above, under⟩ := log2_bounds some positive
  obtain ⟨least, greatest⟩ := powers_bounds (t := (num.log2 : ℤ) - den.log2 - 1) (by omega) (by omega)
  have under : (num : ℚ) / den < 4 * 2 ^ ((num.log2 : ℤ) - den.log2 - 1) := by
    refine under.trans_eq ?_
    rw [show (num.log2 : ℤ) - den.log2 + 1 = 2 + (num.log2 - den.log2 - 1) by ring, zpow_add₀ (by norm_num)]
    norm_num
  rw [decimalPoint]
  dsimp only
  simp only [decide_eq_true_iff, below]
  generalize ((num.log2 : ℤ) - den.log2 - 1) * 30103 / 100000 = g at least greatest ⊢
  rw [if_neg (not_lt.mpr (least.trans above.le))]
  split
  · rename_i fits
    refine ⟨?_, fits⟩
    rw [add_sub_cancel_right]
    exact least.trans above.le
  · rename_i large
    have next : (10 : ℚ) ^ (g + 2) = 10 ^ (g + 1) * 10 := by
      rw [show g + 2 = g + 1 + 1 by ring, zpow_add_one₀ (by norm_num)]
    refine ⟨?_, ?_⟩
    · rw [show g + 2 - 1 = g + 1 by ring]
      exact not_lt.mp large
    · have unit : (0 : ℚ) < 10 ^ (g + 1) := zpow_pos (by norm_num) _
      rw [next]
      linarith

theorem value_bounds (c : Canonical m e) (positive : 0 < m) :
    (2 : ℚ) ^ (-1074 : ℤ) ≤ m * 2 ^ e ∧ (m : ℚ) * 2 ^ e < 2 ^ (1024 : ℤ) := by
  obtain ⟨bound, lowest, highest, _⟩ := canonical_bounds c
  have bound : (m : ℚ) < 2 ^ (53 : ℤ) := by exact_mod_cast bound
  have positive : (1 : ℚ) ≤ m := by exact_mod_cast positive
  have unit : (0 : ℚ) < 2 ^ e := zpow_pos (by norm_num) e
  constructor
  · calc (2 : ℚ) ^ (-1074 : ℤ) ≤ 2 ^ e := zpow_le_zpow_right₀ (by norm_num) lowest
      _ ≤ m * 2 ^ e := le_mul_of_one_le_left unit.le positive
  · calc (m : ℚ) * 2 ^ e < 2 ^ (53 : ℤ) * 2 ^ e := mul_lt_mul_of_pos_right bound unit
      _ ≤ 2 ^ (53 : ℤ) * 2 ^ (971 : ℤ) := by gcongr; norm_num
      _ = 2 ^ (1024 : ℤ) := (zpow_add₀ (by norm_num) 53 971).symm

/-- The place of the decimal point of a number of the format. -/
theorem decimalPoint_scaleDown (c : Canonical m e) (positive : 0 < m) :
    (10 : ℚ) ^ (decimalPoint (scaleDown m 1 (-e)).1 (scaleDown m 1 (-e)).2 - 1) ≤ m * 2 ^ e ∧
      (m : ℚ) * 2 ^ e < 10 ^ decimalPoint (scaleDown m 1 (-e)).1 (scaleDown m 1 (-e)).2 := by
  obtain ⟨least, greatest⟩ := value_bounds c positive
  obtain ⟨unit, scaled⟩ := scaleDown_ratio m Nat.one_pos (-e)
  rw [Nat.cast_one, div_one, zpow_neg, div_inv_eq_mul] at scaled
  generalize (scaleDown m 1 (-e)).1 = a at scaled ⊢
  generalize (scaleDown m 1 (-e)).2 = b at scaled unit ⊢
  rw [← scaled] at least greatest ⊢
  have nonzero : a ≠ 0 := by
    rintro rfl
    rw [Nat.cast_zero, zero_div] at least
    exact absurd least (not_le.mpr (zpow_pos (by norm_num) _))
  obtain ⟨above, under⟩ := log2_bounds nonzero unit
  have low : -1074 < (a.log2 : ℤ) - b.log2 + 1 := (zpow_lt_zpow_iff_right₀ (by norm_num)).mp (least.trans_lt under)
  have high : (a.log2 : ℤ) - b.log2 - 1 < 1024 := (zpow_lt_zpow_iff_right₀ (by norm_num)).mp (above.trans greatest)
  exact decimalPoint_spec nonzero unit (by omega) (by omega)

/-- The search ends on a grid of at most as many places as it may come to, with digits that read back. -/
theorem coarsest_spec (positive : 0 < m) (point : ℤ) (fuel places : ℕ)
    (last : ∃ c, onGrid m e (point - (places + fuel : ℕ)) = some c) :
    ∃ k ≤ places + fuel, (coarsest m e point fuel places).2 = point - k ∧
      RoundsTo m e ((coarsest m e point fuel places).1 * 10 ^ (coarsest m e point fuel places).2) := by
  induction fuel generalizing places with
  | zero =>
    obtain ⟨c, found⟩ := last
    rw [Nat.add_zero] at found
    refine ⟨places, le_rfl, rfl, ?_⟩
    rw [coarsest, found]
    exact onGrid_eq_some positive found
  | succ fuel ih =>
    rw [coarsest]
    split
    · rename_i c found
      exact ⟨places, by omega, rfl, onGrid_eq_some positive found⟩
    · rw [show places + (fuel + 1) = places + 1 + fuel by omega] at last ⊢
      exact ih (places + 1) last

/-- The shortest digits round to the number that they were made for. -/
theorem shortestDigits_spec (c : Canonical m e) (positive : 0 < m) :
    RoundsTo m e ((shortestDigits m e).1 * 10 ^ (shortestDigits m e).2) ∧ 0 < (shortestDigits m e).1 ∧
      (shortestDigits m e).1 < 10 ^ 18 := by
  obtain ⟨least, greatest⟩ := decimalPoint_scaleDown c positive
  rw [shortestDigits]
  dsimp only
  generalize decimalPoint (scaleDown m 1 (-e)).1 (scaleDown m 1 (-e)).2 = point at least greatest ⊢
  have fine : (10 : ℚ) ^ (point - (1 + 16 : ℕ)) * 10 ^ 16 ≤ m * 2 ^ e := by
    refine le_trans (le_of_eq ?_) least
    rw [← zpow_natCast, ← zpow_add₀ (by norm_num)]
    congr 1
    push_cast
    ring
  obtain ⟨k, few, grid, rounds⟩ := coarsest_spec positive point 16 1 (exists_onGrid c positive fine)
  generalize coarsest m e point 16 1 = found at grid rounds ⊢
  obtain ⟨digits, q⟩ := found
  dsimp only at grid rounds ⊢
  subst grid
  refine ⟨rounds, ?_, ?_⟩
  · have low := (rounds.bounds c positive).1
    by_contra none
    obtain rfl : digits = 0 := by omega
    rw [Nat.cast_zero, zero_mul] at low
    exact absurd low (not_le.mpr (zpow_pos (by norm_num) _))
  · have gap : (0 : ℚ) < 2 ^ e := zpow_pos (by norm_num) e
    have unit : (0 : ℚ) < 10 ^ (point - k) := zpow_pos (by norm_num) _
    have whole : (1 : ℚ) ≤ m := by exact_mod_cast positive
    have high := rounds.nearest.high
    rw [div_le_iff₀ gap] at high
    have double : (digits : ℚ) * 10 ^ (point - k) < 2 * 10 ^ k * 10 ^ (point - k) := by
      have split : (10 : ℚ) ^ k * 10 ^ (point - k) = 10 ^ point := by
        rw [← zpow_natCast, ← zpow_add₀ (by norm_num), add_sub_cancel]
      rw [mul_assoc, split]
      have half : (m : ℚ) * 2 ^ e + 1 / 2 * 2 ^ e ≤ 2 * (m * 2 ^ e) := by
        have one : 2 ^ e ≤ (m : ℚ) * 2 ^ e := le_mul_of_one_le_left gap.le whole
        linarith
      linarith
    have bound := lt_of_mul_lt_mul_right double unit.le
    have power : (10 : ℚ) ^ k ≤ 10 ^ 17 := pow_le_pow_right₀ (by norm_num) few
    have bound : (digits : ℚ) < 10 ^ 18 := by linarith
    exact_mod_cast bound

end Double
end AccountInput
