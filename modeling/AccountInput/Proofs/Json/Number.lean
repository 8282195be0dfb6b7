import AccountInput.Proofs.Json.Digits
import AccountInput.Proofs.Number.Shortest
import AccountInput.Proofs.Text.Padding
import AccountInput.Text.Quoted

namespace AccountInput
namespace Json

open Double

/-- Characters of ASCII that print as themselves: no line break and no control character is among them. -/
def ArePrintable (cs : List Char) : Prop := ∀ c ∈ cs, Quoted.isAsciiPrintable c = true

instance (cs : List Char) : Decidable (ArePrintable cs) := List.decidableBAll _ cs

/-- A text that spells something in printable ASCII characters alone. -/
structure Prints (part : Part) (cs : List Char) : Prop where
  spells : Spells part cs
  printable : ArePrintable cs

/-- A decimal number that is no integer by its spelling: its digits, and the power of ten that the last one counts. -/
inductive SpellsScaled : Nat → Int → List Char → Prop where
  | mk {whole fs fraction exponent : List Char} {e : Int} (digits : AreWhole whole)
      (fractional : SpellsFraction fs fraction) (scaled : SpellsExponent e exponent)
      (marked : fraction ≠ [] ∨ exponent ≠ []) :
      SpellsScaled (digitsValue (whole ++ fs)) (e - fs.length) (whole ++ fraction ++ exponent)

variable {n : Nat} {p : Int} {cs ds : List Char}

theorem ArePrintable.append (first : ArePrintable cs) (second : ArePrintable ds) : ArePrintable (cs ++ ds) :=
  List.forall_mem_append.mpr ⟨first, second⟩

theorem arePrintable_cons {c : Char} (first : Quoted.isAsciiPrintable c = true) (rest : ArePrintable cs) :
    ArePrintable (c :: cs) := List.forall_mem_cons.mpr ⟨first, rest⟩

theorem arePrintable_sign (negative : Bool) : ArePrintable (sign negative) := by
  cases negative with
  | false => exact nofun
  | true => exact List.forall_mem_singleton.mpr rfl

theorem arePrintable_of_digits (digits : ∀ c ∈ ds, isDigit c = true) : ArePrintable ds := by
  intro c member
  have digit := digits c member
  rw [isDigit, Bool.and_eq_true, decide_eq_true_iff, decide_eq_true_iff] at digit
  have least : '0'.toNat ≤ c.toNat := digit.1
  have most : c.toNat ≤ '9'.toNat := digit.2
  have nine : '9'.toNat = 57 := rfl
  have zero : '0'.toNat = 48 := rfl
  rw [Quoted.isAsciiPrintable, Bool.and_eq_true, decide_eq_true_iff, decide_eq_true_iff]
  omega

theorem SpellsScaled.arePrintable (scaled : SpellsScaled n p cs) : ArePrintable cs := by
  cases scaled with
  | mk digits fractional scaled marked =>
    refine ((arePrintable_of_digits digits.1.2).append ?_).append ?_
    · cases fractional with
      | none => exact nofun
      | digits fraction => exact arePrintable_cons rfl (arePrintable_of_digits fraction.2)
    · cases scaled with
      | none => exact nofun
      | up mark signed exponent =>
        refine ArePrintable.append (arePrintable_cons ?_ ?_) (arePrintable_of_digits exponent.2)
        · rcases mark with rfl | rfl <;> rfl
        · rcases signed with rfl | rfl
          · exact nofun
          · exact List.forall_mem_singleton.mpr rfl
      | down mark exponent =>
        refine arePrintable_cons ?_ (arePrintable_cons rfl (arePrintable_of_digits exponent.2))
        rcases mark with rfl | rfl <;> rfl

theorem SpellsScaled.prints (scaled : SpellsScaled n p cs) (negative : Bool) :
    Prints (.value (.float (Double.ofDecimal negative n p))) (sign negative ++ cs) := by
  refine ⟨?_, (arePrintable_sign negative).append scaled.arePrintable⟩
  cases scaled with
  | mk digits fractional scaled marked =>
    have spells := Spells.float negative digits fractional scaled marked
    simpa only [List.append_assoc] using spells

theorem isDigit_zeros (n : Nat) : ∀ c ∈ List.replicate n '0', isDigit c = true := by
  intro c member
  rw [List.eq_of_mem_replicate member]
  rfl

theorem spellsExponent_exponentText (least : Nat) (x : Int) : SpellsExponent x ('e' :: exponentText least x) := by
  have digits : AreDigits (padLeft least '0' (Nat.toDigits 10 x.natAbs)) := by
    refine ⟨List.append_ne_nil_of_right_ne_nil _ Nat.toDigits_ne_nil, List.forall_mem_append.mpr ⟨isDigit_zeros _, ?_⟩⟩
    exact (areDigits_toDigits x.natAbs).2
  have value : digitsValue (padLeft least '0' (Nat.toDigits 10 x.natAbs)) = x.natAbs := by
    rw [padLeft, digitsValue_append, digitsValue_zeros, Nat.mul_zero, Nat.zero_add, digitsValue_toDigits]
  unfold exponentText
  generalize padLeft least '0' (Nat.toDigits 10 x.natAbs) = padded at digits value
  dsimp only
  by_cases negative : x < 0
  · rw [if_pos negative]
    have same : x = -(digitsValue padded : Int) := by omega
    rw [same]
    exact .down (.inl rfl) digits
  · rw [if_neg negative]
    have same : x = (digitsValue padded : Int) := by omega
    rw [same]
    have signed : ['+'] = [] ∨ ['+'] = ['+'] := .inr rfl
    exact .up (.inl rfl) signed digits

/-- Digits that begin with none that is zero, with a point after some of them. -/
structure SpellsPointed (ds : List Char) (point : Int) (cs : List Char) (n : Nat) (p : Int) : Prop where
  scaled : SpellsScaled n p cs
  value : (n : ℚ) * 10 ^ p = digitsValue ds * 10 ^ (point - ds.length)
  bound : n < 10 ^ max ds.length 17

variable {point : Int}

/-- The same digits with the power that their own number and the place of the point give. -/
theorem SpellsPointed.of_same {whole fs fraction exponent : List Char} {e : Int} (all : ∀ c ∈ ds, isDigit c = true)
    (digits : AreWhole whole) (fractional : SpellsFraction fs fraction) (scaled : SpellsExponent e exponent)
    (marked : fraction ≠ [] ∨ exponent ≠ []) (same : digitsValue (whole ++ fs) = digitsValue ds)
    (power : e - fs.length = point - ds.length) :
    SpellsPointed ds point (whole ++ fraction ++ exponent) (digitsValue ds) (point - ds.length) := by
  refine ⟨?_, rfl, ?_⟩
  · rw [← same, ← power]
    exact .mk digits fractional scaled marked
  · exact (digitsValue_lt all).trans_le (Nat.pow_le_pow_right (by decide) (le_max_left _ _))

theorem areWhole_of_head (digits : AreDigits ds) (head : ds.head? ≠ some '0') : AreWhole ds := ⟨digits, (absurd · head)⟩

/-- Digits before and after a point among them, zeros put in where they do not reach it. -/
theorem exists_spellsPointed_positional (digits : AreDigits ds) (head : ds.head? ≠ some '0') (few : point ≤ 16) :
    ∃ n p, SpellsPointed ds point (positional ds point) n p := by
  rw [positional]
  split
  · rename_i small
    have fraction : AreDigits (List.replicate (-point).toNat '0' ++ ds) :=
      ⟨List.append_ne_nil_of_right_ne_nil _ digits.1, List.forall_mem_append.mpr ⟨isDigit_zeros _, digits.2⟩⟩
    have zero : AreWhole ['0'] := ⟨⟨nofun, List.forall_mem_singleton.mpr rfl⟩, fun _ => rfl⟩
    have same : digitsValue (['0'] ++ (List.replicate (-point).toNat '0' ++ ds)) = digitsValue ds := by
      rw [digitsValue_append, digitsValue_append, digitsValue_zeros, show digitsValue ['0'] = 0 from rfl]
      omega
    have power : 0 - (List.replicate (-point).toNat '0' ++ ds).length = point - ds.length := by
      rw [List.length_append, List.length_replicate]
      omega
    have spelled := SpellsPointed.of_same digits.2 zero (.digits fraction) .none (.inl nofun) same power
    rw [List.append_nil] at spelled
    exact ⟨_, _, spelled⟩
  · rename_i large
    dsimp only
    split
    · rename_i short
      have whole : AreWhole (ds ++ List.replicate (point.toNat - ds.length) '0') := by
        refine areWhole_of_head ⟨List.append_ne_nil_of_left_ne_nil digits.1 _, ?_⟩ ?_
        · exact List.forall_mem_append.mpr ⟨digits.2, isDigit_zeros _⟩
        · rwa [List.head?_append_of_ne_nil ds digits.1]
      have zero : AreDigits ['0'] := ⟨nofun, List.forall_mem_singleton.mpr rfl⟩
      have scaled := SpellsScaled.mk whole (.digits zero) .none (.inl nofun)
      rw [List.append_nil] at scaled
      refine ⟨_, _, scaled, ?_, ?_⟩
      · have power : point - ds.length = (point.toNat - ds.length : ℕ) := by omega
        rw [digitsValue_append, digitsValue_append, digitsValue_zeros, List.length_replicate, power, zpow_natCast,
          show digitsValue ['0'] = 0 from rfl, List.length_singleton]
        push_cast
        norm_num
        ring
      · refine (digitsValue_lt (List.forall_mem_append.mpr ⟨whole.1.2, zero.2⟩)).trans_le ?_
        refine Nat.pow_le_pow_right (by decide) (le_max_of_le_right ?_)
        rw [List.length_append, List.length_append, List.length_replicate, List.length_singleton]
        omega
    · rename_i within
      have split := List.take_append_drop point.toNat ds
      have whole : AreWhole (ds.take point.toNat) := by
        refine areWhole_of_head ⟨?_, fun c member => digits.2 c (List.mem_of_mem_take member)⟩ ?_
        · rw [Ne, List.take_eq_nil_iff]
          exact not_or.mpr ⟨by omega, digits.1⟩
        · rwa [List.head?_take, if_neg (by omega)]
      have fraction : AreDigits (ds.drop point.toNat) := by
        refine ⟨?_, fun c member => digits.2 c (List.mem_of_mem_drop member)⟩
        rw [Ne, List.drop_eq_nil_iff]
        omega
      have power : 0 - (ds.drop point.toNat).length = point - ds.length := by
        rw [List.length_drop]
        omega
      have spelled := SpellsPointed.of_same digits.2 whole (.digits fraction) .none (.inl nofun)
        (congrArg digitsValue split) power
      rw [List.append_nil] at spelled
      rw [List.append_assoc]
      exact ⟨_, _, spelled⟩

theorem exists_spellsPointed_render (digits : AreDigits ds) (head : ds.head? ≠ some '0') (point : Int) :
    ∃ n p, SpellsPointed ds point (standard.render ds point) n p := by
  unfold Layout.render
  split
  · rename_i near
    exact exists_spellsPointed_positional digits head near.2
  · obtain ⟨d, rest, rfl⟩ := List.exists_cons_of_ne_nil digits.1
    obtain ⟨first, later⟩ := List.forall_mem_cons.mp digits.2
    have whole : AreWhole [d] := areWhole_of_head ⟨nofun, List.forall_mem_singleton.mpr first⟩ head
    have exponent := spellsExponent_exponentText standard.leastExponentDigits (point - 1)
    cases rest with
    | nil => exact ⟨_, _, .of_same digits.2 whole .none exponent (.inr nofun) rfl (Int.sub_zero _)⟩
    | cons d' rest =>
      have power : point - 1 - ((d' :: rest).length : Int) = point - ((d :: d' :: rest).length : Int) := by
        rw [List.length_cons (a := d)]
        omega
      exact ⟨_, _, .of_same digits.2 whole (.digits ⟨nofun, later⟩) exponent (.inl nofun) rfl power⟩

/-- The digits of a natural without the zeros that end it. -/
theorem dropTrailingZeros_toDigits {c : Nat} (positive : 0 < c) : ∃ z,
    AreDigits (dropTrailingZeros (Nat.toDigits 10 c)) ∧ (dropTrailingZeros (Nat.toDigits 10 c)).head? ≠ some '0' ∧
      (Nat.toDigits 10 c).length = (dropTrailingZeros (Nat.toDigits 10 c)).length + z ∧
        c = digitsValue (dropTrailingZeros (Nat.toDigits 10 c)) * 10 ^ z := by
  obtain ⟨z, split⟩ : ∃ z, Nat.toDigits 10 c = dropTrailingZeros (Nat.toDigits 10 c) ++ List.replicate z '0' :=
    Text.exists_eq_rdropWhile_append '0' _
  have value := digitsValue_toDigits c
  have whole := areWhole_toDigits c
  rw [split] at whole
  rw [split, digitsValue_append, digitsValue_zeros, List.length_replicate, Nat.add_zero, Nat.mul_comm] at value
  have length := congrArg List.length split
  rw [List.length_append, List.length_replicate] at length
  generalize dropTrailingZeros (Nat.toDigits 10 c) = kept at value whole length ⊢
  have some : kept ≠ [] := by
    rintro rfl
    rw [show digitsValue [] = 0 from rfl, Nat.zero_mul] at value
    omega
  refine ⟨z, ⟨some, fun d member => whole.1.2 d (List.mem_append_left _ member)⟩, fun zero => ?_, length, value.symm⟩
  have alone := whole.2 (by rwa [List.head?_append_of_ne_nil kept some])
  obtain ⟨d, rest, rfl⟩ := List.exists_cons_of_ne_nil some
  obtain rfl : d = '0' := Option.some.inj zero
  have last : rest = [] := List.append_eq_nil_iff.mp (List.cons.inj alone).2 |>.1
  rw [last, show digitsValue ['0'] = 0 from rfl, Nat.zero_mul] at value
  omega

theorem toList_text (negative : Bool) {m : Nat} {e : Int} (c : Canonical m e) :
    (Double.finite negative m e c).text.toList = sign negative ++
      if m = 0 then ['0', '.', '0']
      else
        standard.render (dropTrailingZeros (Nat.toDigits 10 (shortestDigits m e).1))
          ((Nat.toDigits 10 (shortestDigits m e).1).length + (shortestDigits m e).2) := by
  rw [Double.text, String.toList_ofList]
  cases negative <;> rfl

/-- The shortest digits, as they are laid out, are those of a number that rounds to what they were made for. -/
theorem exists_spellsScaled_shortest {m : Nat} {e : Int} (c : Canonical m e) (positive : 0 < m) : ∃ n p,
    SpellsScaled n p (standard.render (dropTrailingZeros (Nat.toDigits 10 (shortestDigits m e).1))
      ((Nat.toDigits 10 (shortestDigits m e).1).length + (shortestDigits m e).2)) ∧
      n < 2 ^ 64 ∧ RoundsTo m e (n * 10 ^ p) := by
  obtain ⟨rounds, some, few⟩ := shortestDigits_spec c positive
  obtain ⟨z, digits, head, length, split⟩ := dropTrailingZeros_toDigits some
  have short := (Nat.length_toDigits_le_iff (by decide) (by decide)).mpr few
  generalize (Nat.toDigits 10 (shortestDigits m e).1).length = k at length short ⊢
  generalize dropTrailingZeros (Nat.toDigits 10 (shortestDigits m e).1) = kept at digits head length split ⊢
  generalize (shortestDigits m e).1 = d at rounds split
  generalize (shortestDigits m e).2 = q at rounds ⊢
  obtain ⟨n, p, scaled, value, bound⟩ := exists_spellsPointed_render digits head (k + q)
  have same : (n : ℚ) * 10 ^ p = d * 10 ^ q := by
    rw [value, split, show (k : ℤ) + q - kept.length = z + q by omega, zpow_add₀ (by norm_num), zpow_natCast]
    push_cast
    ring
  have power : 10 ^ max kept.length 17 ≤ 10 ^ 18 := Nat.pow_le_pow_right (by decide) (by omega)
  exact ⟨n, p, scaled, by omega, same ▸ rounds⟩

theorem prints_text {x : Double} (finite : x.isFinite = true) : Prints (.value (.float x)) x.text.toList := by
  cases x with
  | nan => cases finite
  | infinite negative => cases finite
  | finite negative m e c =>
    rw [toList_text]
    split
    · rename_i none
      subst none
      obtain ⟨_, _, _, full⟩ := canonical_bounds c
      obtain rfl : e = -1074 := full.resolve_left (by decide)
      have zero : AreWhole ['0'] := ⟨⟨nofun, List.forall_mem_singleton.mpr rfl⟩, fun _ => rfl⟩
      exact (SpellsScaled.mk zero (.digits zero.1) .none (.inl nofun)).prints negative
    · rename_i some
      have positive : 0 < m := Nat.pos_of_ne_zero some
      obtain ⟨n, p, scaled, few, rounds⟩ := exists_spellsScaled_shortest c positive
      have read := ofDecimal_of_roundsTo negative c positive few rounds
      exact read ▸ scaled.prints negative

end Json
end AccountInput
