import Mathlib.Algebra.Order.Field.Power
import Mathlib.Algebra.Order.Field.Rat
import Mathlib.Tactic.Linarith
import Mathlib.Tactic.NormNum
import Mathlib.Tactic.Ring
import AccountInput.Number.Double

namespace AccountInput
namespace Double

/-- The natural nearest to a rational number, of two that are equally near the even one. -/
structure Nearest (y : ℚ) (k : ℕ) : Prop where
  low : (k : ℚ) - 1 / 2 ≤ y
  high : y ≤ k + 1 / 2
  odd : k % 2 = 1 → (k : ℚ) - 1 / 2 < y ∧ y < k + 1 / 2

variable {num den k : ℕ} {y : ℚ}

theorem Nearest.unique {j : ℕ} (first : Nearest y j) (second : Nearest y k) : j = k := by
  have before : (j : ℚ) ≤ k + 1 := by linarith [first.low, second.high]
  have after : (k : ℚ) ≤ j + 1 := by linarith [second.low, first.high]
  have before : j ≤ k + 1 := by exact_mod_cast before
  have after : k ≤ j + 1 := by exact_mod_cast after
  by_contra other
  -- two neighbours are equally near to what lies between them, and one of them is odd
  rcases Nat.lt_or_gt_of_ne other with less | more
  · obtain rfl : k = j + 1 := by omega
    have low := second.low
    have high := first.high
    push_cast at low
    rcases Nat.mod_two_eq_zero_or_one j with even | odd
    · have strict := (second.odd (by omega)).1
      push_cast at strict
      linarith
    · linarith [(first.odd odd).2]
  · obtain rfl : j = k + 1 := by omega
    have low := first.low
    have high := second.high
    push_cast at low
    rcases Nat.mod_two_eq_zero_or_one k with even | odd
    · have strict := (first.odd (by omega)).1
      push_cast at strict
      linarith
    · linarith [(second.odd odd).2]

theorem nearest_div_iff (positive : 0 < den) : Nearest ((num : ℚ) / den) k ↔
    (2 * k * den ≤ 2 * num + den ∧ 2 * num ≤ 2 * k * den + den) ∧
      (k % 2 = 1 → 2 * k * den < 2 * num + den ∧ 2 * num < 2 * k * den + den) := by
  have unit : (0 : ℚ) < den := by exact_mod_cast positive
  have low : (k : ℚ) - 1 / 2 ≤ num / den ↔ 2 * k * den ≤ 2 * num + den := by
    rw [le_div_iff₀ unit, ← @Nat.cast_le ℚ]
    push_cast
    constructor <;> intro bound <;> linarith
  have high : (num : ℚ) / den ≤ k + 1 / 2 ↔ 2 * num ≤ 2 * k * den + den := by
    rw [div_le_iff₀ unit, ← @Nat.cast_le ℚ]
    push_cast
    constructor <;> intro bound <;> linarith
  have above : (k : ℚ) - 1 / 2 < num / den ↔ 2 * k * den < 2 * num + den := by
    rw [lt_div_iff₀ unit, ← @Nat.cast_lt ℚ]
    push_cast
    constructor <;> intro bound <;> linarith
  have below : (num : ℚ) / den < k + 1 / 2 ↔ 2 * num < 2 * k * den + den := by
    rw [div_lt_iff₀ unit, ← @Nat.cast_lt ℚ]
    push_cast
    constructor <;> intro bound <;> linarith
  rw [← low, ← high, ← above, ← below]
  exact ⟨fun ⟨l, h, o⟩ => ⟨⟨l, h⟩, o⟩, fun ⟨⟨l, h⟩, o⟩ => ⟨l, h, o⟩⟩

theorem nearest_roundedQuotient (num : ℕ) (positive : 0 < den) :
    Nearest ((num : ℚ) / den) (roundedQuotient num den) := by
  have parts := Nat.div_add_mod num den
  have rest := Nat.mod_lt num positive
  rw [nearest_div_iff positive, roundedQuotient]
  generalize num / den = q at parts ⊢
  generalize num % den = r at parts rest ⊢
  have once : 2 * q * den = 2 * (den * q) := by ring
  have next : 2 * (q + 1) * den = 2 * (den * q) + 2 * den := by ring
  split
  · rw [next]
    omega
  · rw [once]
    omega

theorem roundedQuotient_eq (positive : 0 < den) (nearest : Nearest ((num : ℚ) / den) k) :
    roundedQuotient num den = k :=
  (nearest_roundedQuotient num positive).unique nearest

/-- A fraction over a power, as it is scaled in integers. -/
theorem scaled_ratio (base : ℕ) (some : 0 < base) (num : ℕ) (positive : 0 < den) (e : ℤ) :
    let scaled := if 0 ≤ e then (num, den * base ^ e.toNat) else (num * base ^ (-e).toNat, den)
    0 < scaled.2 ∧ (scaled.1 : ℚ) / scaled.2 = num / den / (base : ℚ) ^ e := by
  have unit : (base : ℚ) ≠ 0 := by exact_mod_cast some.ne'
  dsimp only
  split
  · rename_i up
    refine ⟨Nat.mul_pos positive (Nat.pow_pos some), ?_⟩
    have power : (base : ℚ) ^ e = (base : ℚ) ^ e.toNat := by rw [← zpow_natCast, Int.toNat_of_nonneg up]
    rw [power]
    push_cast
    rw [div_div]
  · rename_i down
    refine ⟨positive, ?_⟩
    have power : (base : ℚ) ^ e = ((base : ℚ) ^ (-e).toNat)⁻¹ := by
      rw [← zpow_natCast, Int.toNat_of_nonneg (by omega), zpow_neg, inv_inv]
    rw [power]
    push_cast
    rw [div_inv_eq_mul, mul_div_right_comm]

theorem scaleDown_ratio (num : ℕ) (positive : 0 < den) (e : ℤ) : 0 < (scaleDown num den e).2 ∧
    ((scaleDown num den e).1 : ℚ) / (scaleDown num den e).2 = num / den / 2 ^ e :=
  scaled_ratio 2 (by decide) num positive e

theorem scaleDownTen_ratio (num : ℕ) (positive : 0 < den) (e : ℤ) : 0 < (scaleDownTen num den e).2 ∧
    ((scaleDownTen num den e).1 : ℚ) / (scaleDownTen num den e).2 = num / den / 10 ^ e :=
  scaled_ratio 10 (by decide) num positive e

theorem log2_bounds (some : num ≠ 0) (positive : 0 < den) :
    (2 : ℚ) ^ ((num.log2 : ℤ) - den.log2 - 1) < num / den ∧
      (num : ℚ) / den < 2 ^ ((num.log2 : ℤ) - den.log2 + 1) := by
  have unit : (0 : ℚ) < den := by exact_mod_cast positive
  have num_low : (2 : ℚ) ^ num.log2 ≤ num := by exact_mod_cast Nat.log2_self_le some
  have num_high : (num : ℚ) < 2 ^ (num.log2 + 1) := by exact_mod_cast Nat.lt_log2_self
  have den_low : (2 : ℚ) ^ den.log2 ≤ den := by exact_mod_cast Nat.log2_self_le positive.ne'
  have den_high : (den : ℚ) < 2 ^ (den.log2 + 1) := by exact_mod_cast Nat.lt_log2_self
  constructor
  · rw [lt_div_iff₀ unit]
    calc (2 : ℚ) ^ ((num.log2 : ℤ) - den.log2 - 1) * den
        < 2 ^ ((num.log2 : ℤ) - den.log2 - 1) * 2 ^ (den.log2 + 1) := by gcongr
      _ = 2 ^ num.log2 := by
        rw [← zpow_natCast, ← zpow_natCast, ← zpow_add₀ (by norm_num)]
        congr 1
        push_cast
        ring
      _ ≤ num := num_low
  · rw [div_lt_iff₀ unit]
    calc (num : ℚ) < 2 ^ (num.log2 + 1) := num_high
      _ = 2 ^ ((num.log2 : ℤ) - den.log2 + 1) * 2 ^ den.log2 := by
        rw [← zpow_natCast, ← zpow_natCast, ← zpow_add₀ (by norm_num)]
        congr 1
        push_cast
        ring
      _ ≤ 2 ^ ((num.log2 : ℤ) - den.log2 + 1) * den := by gcongr

/-- A number that rounds to `m * 2 ^ e`. Below a full power of two the next mantissa is half as far as above it. -/
structure RoundsTo (m : ℕ) (e : ℤ) (v : ℚ) : Prop where
  nearest : Nearest (v / 2 ^ e) m
  below : m = 2 ^ 52 → e ≠ -1074 → (m : ℚ) - 1 / 4 ≤ v / 2 ^ e

/-- The exponent at which a fraction has a mantissa of full width, if that is not too low. -/
def fullExponent (num den : ℕ) : ℤ :=
  let e := max ((num.log2 : ℤ) - den.log2 - 53) (-1074)
  if (scaleDown num den e).1 / (scaleDown num den e).2 < 2 ^ 53 then e else e + 1

theorem ofRatio_eq (negative : Bool) (some : num ≠ 0) : ofRatio negative num den =
    let e := fullExponent num den
    let m := roundedQuotient (scaleDown num den e).1 (scaleDown num den e).2
    if m = 2 ^ 53 then ofParts negative (2 ^ 52) (e + 1) else ofParts negative m e := by
  rw [ofRatio, if_neg some]
  rfl

theorem fullExponent_spec (some : num ≠ 0) (positive : 0 < den) :
    -1074 ≤ fullExponent num den ∧ (num : ℚ) / den / 2 ^ fullExponent num den < 2 ^ 53 ∧
      (2 ^ 52 ≤ (num : ℚ) / den / 2 ^ fullExponent num den ∨ fullExponent num den = -1074) := by
  obtain ⟨above, below⟩ := log2_bounds some positive
  unfold fullExponent
  dsimp only
  generalize found : max ((num.log2 : ℤ) - den.log2 - 53) (-1074) = e₀
  obtain ⟨unit, scaled⟩ := scaleDown_ratio num positive e₀
  have gap : (0 : ℚ) < 2 ^ e₀ := zpow_pos (by norm_num) e₀
  have fits : (scaleDown num den e₀).1 / (scaleDown num den e₀).2 < 2 ^ 53 ↔ (num : ℚ) / den / 2 ^ e₀ < 2 ^ 53 := by
    have unit : (0 : ℚ) < (scaleDown num den e₀).2 := by exact_mod_cast unit
    rw [Nat.div_lt_iff_lt_mul ‹_›, ← scaled, div_lt_iff₀ unit, ← @Nat.cast_lt ℚ]
    push_cast
    exact Iff.rfl
  -- at the first exponent there are at most two digits too many
  have wide : (num : ℚ) / den / 2 ^ e₀ < 2 ^ 54 := by
    rw [div_lt_iff₀ gap]
    calc (num : ℚ) / den < 2 ^ ((num.log2 : ℤ) - den.log2 + 1) := below
      _ ≤ 2 ^ (54 + e₀) := zpow_le_zpow_right₀ (by norm_num) (by omega)
      _ = 2 ^ 54 * 2 ^ e₀ := zpow_add₀ (by norm_num) 54 e₀
  split
  · rename_i whole
    refine ⟨by omega, fits.mp whole, ?_⟩
    by_cases lowest : e₀ = -1074
    · exact .inr lowest
    · left
      rw [le_div_iff₀ gap]
      calc (2 : ℚ) ^ 52 * 2 ^ e₀ = 2 ^ (52 + e₀) := (zpow_add₀ (by norm_num) 52 e₀).symm
        _ = 2 ^ ((num.log2 : ℤ) - den.log2 - 1) := by congr 1; omega
        _ ≤ num / den := above.le
  · rename_i whole
    have large : 2 ^ 53 ≤ (num : ℚ) / den / 2 ^ e₀ := not_lt.mp (mt fits.mpr whole)
    have half : (num : ℚ) / den / 2 ^ (e₀ + 1) = num / den / 2 ^ e₀ / 2 := by
      rw [zpow_add_one₀ (by norm_num), div_div]
      ring
    rw [half]
    refine ⟨by omega, by linarith, .inl (by linarith)⟩

theorem canonical_bounds {m : ℕ} {e : ℤ} (c : Canonical m e) :
    m < 2 ^ 53 ∧ -1074 ≤ e ∧ e ≤ 971 ∧ (2 ^ 52 ≤ m ∨ e = -1074) := c

theorem ofParts_of_canonical (negative : Bool) {m : ℕ} {e : ℤ} (c : Canonical m e) :
    ofParts negative m e = .finite negative m e c := by
  rw [ofParts, dif_pos c]

variable {m : ℕ} {e : ℤ} {v : ℚ}

/-- A number over a power of two, and over a higher one. -/
theorem exists_div_scale (v : ℚ) {low high : ℤ} (lower : low < high) :
    ∃ k : ℕ, high = low + (k + 1 : ℕ) ∧ v / 2 ^ low = v / 2 ^ high * 2 ^ (k + 1) := by
  obtain ⟨k, apart⟩ := Int.le.dest (show low + 1 ≤ high by omega)
  have apart : high = low + (k + 1 : ℕ) := by push_cast; omega
  refine ⟨k, apart, ?_⟩
  rw [apart, zpow_add₀ (by norm_num), zpow_natCast, ← div_div, div_mul_cancel₀ _ (by positivity)]

/-- At an exponent below its own a number has too many digits, unless it is just below a full power of two. -/
theorem RoundsTo.of_lower {e' : ℤ} (rounds : RoundsTo m e v) (c : Canonical m e) (lowest : -1074 ≤ e')
    (lower : e' < e) (fits : v / 2 ^ e' < 2 ^ 53) : m = 2 ^ 52 ∧ e = e' + 1 ∧ Nearest (v / 2 ^ e') (2 ^ 53) := by
  obtain ⟨_, _, _, full⟩ := canonical_bounds c
  have full : 2 ^ 52 ≤ m := full.resolve_right (by omega)
  have wide : (2 : ℚ) ^ 52 ≤ m := by exact_mod_cast full
  have low := rounds.nearest.low
  obtain ⟨k, apart, scaled⟩ := exists_div_scale v lower
  have below := rounds.below
  rw [scaled] at fits ⊢
  generalize v / 2 ^ e = y at low below fits ⊢
  have double : (2 : ℚ) ≤ 2 ^ (k + 1) := le_self_pow₀ (by norm_num) k.succ_ne_zero
  have narrow : y * 2 ≤ y * 2 ^ (k + 1) := mul_le_mul_of_nonneg_left double (by linarith)
  have least : (m : ℚ) < 2 ^ 52 + 1 := by linarith
  have least : m < 2 ^ 52 + 1 := by exact_mod_cast least
  obtain rfl : m = 2 ^ 52 := by omega
  have near := below rfl (by omega)
  push_cast at near
  have one : k = 0 := by
    by_contra more
    have fourfold : (2 : ℚ) ^ 2 ≤ 2 ^ (k + 1) := pow_le_pow_right₀ (by norm_num) (by omega)
    have narrower : y * 2 ^ 2 ≤ y * 2 ^ (k + 1) := mul_le_mul_of_nonneg_left fourfold (by linarith)
    linarith
  subst one
  rw [Nat.zero_add, pow_one] at fits ⊢
  refine ⟨rfl, by omega, ?_, ?_, fun odd => absurd odd (by decide)⟩
  · push_cast
    linarith
  · push_cast
    linarith

/-- At an exponent above its own a number has no mantissa of full width. -/
theorem RoundsTo.not_higher {e' : ℤ} (rounds : RoundsTo m e v) (c : Canonical m e) (higher : e < e') :
    v / 2 ^ e' < 2 ^ 52 := by
  obtain ⟨bound, _⟩ := canonical_bounds c
  have bound : (m : ℚ) + 1 ≤ 2 ^ 53 := by exact_mod_cast bound
  have high := rounds.nearest.high
  obtain ⟨k, _, scaled⟩ := exists_div_scale v higher
  by_contra large
  have large : (2 : ℚ) ^ 52 ≤ v / 2 ^ e' := not_lt.mp large
  have double : (2 : ℚ) ≤ 2 ^ (k + 1) := le_self_pow₀ (by norm_num) k.succ_ne_zero
  have wide : (2 : ℚ) ^ 52 * 2 ≤ v / 2 ^ e' * 2 ^ (k + 1) := by gcongr
  linarith

theorem ofRatio_of_roundsTo (negative : Bool) (c : Canonical m e) (positive : 0 < den)
    (rounds : RoundsTo m e ((num : ℚ) / den)) : ofRatio negative num den = .finite negative m e c := by
  obtain ⟨bound, lowest, _, full⟩ := canonical_bounds c
  by_cases none : num = 0
  · subst none
    have low := rounds.nearest.low
    rw [Nat.cast_zero, zero_div, zero_div] at low
    have small : (m : ℚ) < 1 := by linarith
    obtain rfl : m = 0 := Nat.lt_one_iff.mp (by exact_mod_cast small)
    obtain rfl : e = -1074 := full.resolve_left (by decide)
    rw [ofRatio, if_pos rfl, zero]
  · obtain ⟨least, fits, wide⟩ := fullExponent_spec none positive
    rw [ofRatio_eq negative none]
    generalize fullExponent num den = e' at least fits wide ⊢
    dsimp only
    obtain ⟨unit, scaled⟩ := scaleDown_ratio num positive e'
    rcases lt_trichotomy e' e with lower | rfl | higher
    · obtain ⟨rfl, rfl, nearest⟩ := rounds.of_lower c least lower fits
      rw [← scaled] at nearest
      rw [if_pos (roundedQuotient_eq unit nearest)]
      exact ofParts_of_canonical negative c
    · have nearest := rounds.nearest
      rw [← scaled] at nearest
      rw [roundedQuotient_eq unit nearest, if_neg (by omega)]
      exact ofParts_of_canonical negative c
    · have narrow := rounds.not_higher c higher
      have lowest' : e' ≠ -1074 := by omega
      exact absurd (wide.resolve_right lowest') (not_le.mpr narrow)

theorem natural_powers_bounds : ∀ t < 1100,
    10 ^ (t * 30103 / 100000) ≤ 2 ^ t ∧ 2 ^ t ≤ 10 ^ (t * 30103 / 100000 + 1) := by
  have all : (List.range 1100).all (fun t => (10 ^ (t * 30103 / 100000)).ble (2 ^ t) &&
      (2 ^ t).ble (10 ^ (t * 30103 / 100000 + 1))) = true := by decide +kernel
  intro t bound
  have both := List.all_eq_true.mp all t (List.mem_range.mpr bound)
  rw [Bool.and_eq_true, Nat.ble_eq, Nat.ble_eq] at both
  exact both

/-- The powers of ten around a power of two, as far as the format reaches. -/
theorem powers_bounds {t : ℤ} (low : -1100 < t) (high : t < 1100) :
    (10 : ℚ) ^ (t * 30103 / 100000) ≤ 2 ^ t ∧ (2 : ℚ) ^ t ≤ 10 ^ (t * 30103 / 100000 + 1) := by
  have product (s : ℕ) : (s : ℤ) * 30103 = ((s * 30103 : ℕ) : ℤ) := by push_cast; rfl
  rcases lt_or_ge t 0 with negative | positive
  · obtain ⟨s, rfl⟩ : ∃ s : ℕ, t = -s := ⟨t.natAbs, by omega⟩
    have some : 0 < s := by omega
    have bound : s < 1100 := by omega
    have broken : s * 30103 % 100000 ≠ 0 := fun whole => by
      have divides : 100000 ∣ s := Nat.Coprime.dvd_of_dvd_mul_right (by decide) (Nat.dvd_of_mod_eq_zero whole)
      exact absurd (Nat.le_of_dvd some divides) (Nat.not_le.mpr (bound.trans (by decide)))
    obtain ⟨below, above⟩ := natural_powers_bounds s bound
    rw [neg_mul, product]
    generalize s * 30103 = n at broken below above ⊢
    have floor : -(n : ℤ) / 100000 = -((n / 100000 + 1 : ℕ) : ℤ) := by omega
    have next : -((n / 100000 + 1 : ℕ) : ℤ) + 1 = -((n / 100000 : ℕ) : ℤ) := by push_cast; ring
    have below : (10 : ℚ) ^ (n / 100000) ≤ 2 ^ s := by exact_mod_cast below
    have above : (2 : ℚ) ^ s ≤ 10 ^ (n / 100000 + 1) := by exact_mod_cast above
    rw [floor, next]
    simp only [zpow_neg, zpow_natCast]
    exact ⟨inv_anti₀ (by positivity) above, inv_anti₀ (by positivity) below⟩
  · obtain ⟨s, rfl⟩ := Int.eq_ofNat_of_zero_le positive
    obtain ⟨below, above⟩ := natural_powers_bounds s (by omega)
    have floor : ((s * 30103 : ℕ) : ℤ) / 100000 = ((s * 30103 / 100000 : ℕ) : ℤ) := by push_cast; rfl
    rw [product, floor, ← Nat.cast_succ]
    simp only [zpow_natCast]
    exact ⟨by exact_mod_cast below, by exact_mod_cast above⟩

theorem RoundsTo.bounds (rounds : RoundsTo m e v) (c : Canonical m e) (some : 0 < m) :
    (10 : ℚ) ^ (-324 : ℤ) ≤ v ∧ v ≤ 10 ^ (309 : ℤ) := by
  obtain ⟨bound, lowest, highest, _⟩ := canonical_bounds c
  have bound : (m : ℚ) + 1 ≤ 2 ^ 53 := by exact_mod_cast bound
  have some : (1 : ℚ) ≤ m := by exact_mod_cast some
  have low := rounds.nearest.low
  have high := rounds.nearest.high
  have unit : (0 : ℚ) < 2 ^ e := zpow_pos (by norm_num) e
  constructor
  · have least : (2 : ℚ) ^ (-1074 : ℤ) ≤ 2 ^ e := zpow_le_zpow_right₀ (by norm_num) lowest
    have half : (1 : ℚ) / 2 ≤ v / 2 ^ e := by linarith
    rw [le_div_iff₀ unit] at half
    calc (10 : ℚ) ^ (-324 : ℤ) ≤ 2 ^ (-1075 : ℤ) := (powers_bounds (t := -1075) (by decide) (by decide)).1
      _ = 1 / 2 * 2 ^ (-1074 : ℤ) := by
        rw [show (-1075 : ℤ) = -1074 - 1 by norm_num, zpow_sub_one₀ (by norm_num), mul_comm, one_div]
      _ ≤ 1 / 2 * 2 ^ e := by gcongr
      _ ≤ v := half
  · have greatest : (2 : ℚ) ^ e ≤ 2 ^ (971 : ℤ) := zpow_le_zpow_right₀ (by norm_num) highest
    have narrow : v / 2 ^ e ≤ 2 ^ 53 := by linarith
    rw [div_le_iff₀ unit] at narrow
    calc v ≤ 2 ^ 53 * 2 ^ e := narrow
      _ ≤ 2 ^ 53 * 2 ^ (971 : ℤ) := by gcongr
      _ = 2 ^ (1024 : ℤ) := (zpow_add₀ (by norm_num) 53 971).symm
      _ ≤ 10 ^ (309 : ℤ) := (powers_bounds (t := 1024) (by decide) (by decide)).2

/-- The magnitude of digits by their number of binary digits. -/
theorem magnitude_bounds {digits : ℕ} (some : digits ≠ 0) (few : digits < 2 ^ 64) (p : ℤ) :
    (10 : ℚ) ^ ((digits.log2 : ℤ) * 30103 / 100000 + p) ≤ digits * 10 ^ p ∧
      (digits : ℚ) * 10 ^ p < 10 ^ ((digits.log2 : ℤ) * 30103 / 100000 + p + 2) := by
  have short : digits.log2 < 64 := (Nat.log2_lt some).mpr few
  obtain ⟨low, high⟩ := powers_bounds (t := digits.log2) (by omega) (by omega)
  generalize (digits.log2 : ℤ) * 30103 / 100000 = g at low high ⊢
  rw [zpow_natCast] at low high
  have least : (2 : ℚ) ^ digits.log2 ≤ digits := by exact_mod_cast Nat.log2_self_le some
  have greatest : (digits : ℚ) < 2 ^ digits.log2 * 2 := by exact_mod_cast Nat.lt_log2_self (n := digits)
  have ten : (0 : ℚ) < 10 ^ g := zpow_pos (by norm_num) g
  have unit : (0 : ℚ) < 10 ^ p := zpow_pos (by norm_num) p
  rw [zpow_add_one₀ (by norm_num)] at high
  have power : (10 : ℚ) ^ (g + p + 2) = 10 ^ g * 100 * 10 ^ p := by
    rw [add_right_comm, zpow_add₀ (by norm_num), zpow_add₀ (by norm_num)]
    norm_num
  rw [power, zpow_add₀ (by norm_num)]
  exact ⟨mul_le_mul_of_nonneg_right (low.trans least) unit.le, mul_lt_mul_of_pos_right (by linarith) unit⟩

/-- Digits are read as the number that they round to. -/
theorem ofDecimal_of_roundsTo (negative : Bool) (c : Canonical m e) (some : 0 < m) {digits : ℕ} (few : digits < 2 ^ 64)
    {p : ℤ} (rounds : RoundsTo m e (digits * 10 ^ p)) : ofDecimal negative digits p = .finite negative m e c := by
  obtain ⟨low, high⟩ := rounds.bounds c some
  have nonzero : digits ≠ 0 := by
    rintro rfl
    rw [Nat.cast_zero, zero_mul] at low
    exact absurd low (not_le.mpr (zpow_pos (by norm_num) _))
  obtain ⟨least, greatest⟩ := magnitude_bounds nonzero few p
  have above : -324 < (digits.log2 : ℤ) * 30103 / 100000 + p + 2 :=
    (zpow_lt_zpow_iff_right₀ (by norm_num)).mp (low.trans_lt greatest)
  have below : (digits.log2 : ℤ) * 30103 / 100000 + p ≤ 309 :=
    (zpow_le_zpow_iff_right₀ (by norm_num)).mp (least.trans high)
  rw [ofDecimal, if_neg nonzero]
  dsimp only
  rw [if_neg (by omega), if_neg (by omega)]
  obtain ⟨unit, scaled⟩ := scaleDownTen_ratio digits Nat.one_pos (-p)
  rw [Nat.cast_one, div_one, zpow_neg, div_inv_eq_mul] at scaled
  rw [← scaled] at rounds
  exact ofRatio_of_roundsTo negative c unit rounds

end Double
end AccountInput
