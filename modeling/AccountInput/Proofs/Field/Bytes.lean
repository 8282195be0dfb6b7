import AccountInput.Checked.Field
import Mathlib.Tactic.ByContra

namespace AccountInput
namespace Fp

theorem val_lt_bytes (x : Fp) : x.val < Nat.pow 256 elementBytes := Nat.lt_trans x.lt_modulus (by decide)

theorem length_toBytes (x : Fp) : x.toBytes.length = elementBytes := length_littleEndian _ _

theorem ofLittleEndian_toBytes (x : Fp) : ofLittleEndian x.toBytes = x.val :=
  (ofLittleEndian_littleEndian _ _).trans (Nat.mod_eq_of_lt x.val_lt_bytes)

theorem isCanonical_iff {bs : List UInt8} :
    isCanonical bs = true ↔ bs.length = elementBytes ∧ ofLittleEndian bs < modulus := by
  rw [isCanonical, Bool.and_eq_true, beq_iff_eq, decide_eq_true_iff]

theorem ofNat?_eq_some_iff {n : Nat} {x : Fp} : ofNat? n = some x ↔ x.val = n := by
  constructor
  · intro found
    obtain ⟨small, same⟩ := Option.dite_none_right_eq_some.mp found
    exact congrArg Fp.val (Option.some.inj same).symm
  · rintro rfl
    exact ofNat?_val x

theorem read_of_length {bs : List UInt8} {x : Fp} (length : bs.length = elementBytes) :
    read bs = .ok x ↔ ofNat? (ofLittleEndian bs) = some x := by
  rw [read, if_pos length]
  cases ofNat? (ofLittleEndian bs) with
  | none => exact ⟨nofun, nofun⟩
  | some y => rw [Except.ok.injEq, Option.some.injEq]

/-- Only what an element is written as reads as that element. -/
theorem read_eq_ok_iff {bs : List UInt8} {x : Fp} : read bs = .ok x ↔ x.toBytes = bs := by
  constructor
  · intro run
    have length : bs.length = elementBytes := by
      by_contra other
      rw [read, if_neg other] at run
      cases run
    have number : x.val = ofLittleEndian bs := ofNat?_eq_some_iff.mp ((read_of_length length).mp run)
    exact ofLittleEndian_injective (x.length_toBytes.trans length.symm) (x.ofLittleEndian_toBytes.trans number)
  · rintro rfl
    exact (read_of_length x.length_toBytes).mpr (ofNat?_eq_some_iff.mpr x.ofLittleEndian_toBytes.symm)

theorem exists_toBytes_iff {bs : List UInt8} : (∃ x : Fp, x.toBytes = bs) ↔ isCanonical bs = true := by
  rw [isCanonical_iff]
  constructor
  · rintro ⟨x, rfl⟩
    exact ⟨x.length_toBytes, x.ofLittleEndian_toBytes.symm ▸ x.lt_modulus⟩
  · rintro ⟨length, small⟩
    exact ⟨⟨_, small⟩, read_eq_ok_iff.mp ((read_of_length length).mpr (dif_pos small))⟩

theorem readValue_bytes_eq_ok_iff {form : ByteForm} {bs : List UInt8} {x : Fp} :
    readValue (.bytes form bs) = .ok x ↔ read bs = .ok x := by
  unfold readValue
  rw [Value.length_bytes, Value.toBytes_bytes]
  by_cases length : bs.length = elementBytes
  · simp only [bind, Except.bind, length, ne_eq, not_true, if_false]
    cases read bs with
    | error e => exact ⟨nofun, nofun⟩
    | ok y =>
      change Except.ok y = Except.ok x ↔ _
      rw [Except.ok.injEq, Except.ok.injEq]
  · simp only [bind, Except.bind, length, ne_eq, not_false_eq_true, if_true, read, if_false]
    exact ⟨nofun, nofun⟩

theorem isCanonicalValue_bytes (form : ByteForm) (bs : List UInt8) :
    isCanonicalValue (.bytes form bs) = .ok (isCanonical bs) := by
  unfold isCanonicalValue
  rw [Value.length_bytes, Value.toBytes_bytes]
  by_cases length : bs.length = elementBytes
  · simp only [bind, Except.bind, length, ne_eq, not_true, if_false]
    rfl
  · have refused : isCanonical bs = false := by rw [isCanonical, beq_eq_false_iff_ne.mpr length, Bool.false_and]
    simp only [bind, Except.bind, length, ne_eq, not_false_eq_true, if_true, refused]
    rfl

/-- Reading succeeds on the canonical byte strings alone, those of 32 bytes that stand for a number below
the modulus, and gives the one element that is written so. Every element can be written. -/
theorem read_canonical_bytes :
    (∀ form bs,
      isCanonicalValue (.bytes form bs) = .ok (decide (bs.length = 32 ∧ ofLittleEndian bs < modulus)) ∧
      ((∃ x, readValue (.bytes form bs) = .ok x) ↔ isCanonicalValue (.bytes form bs) = .ok true) ∧
      ∀ x, readValue (.bytes form bs) = .ok x ↔ x.toBytes = bs) ∧
    ∀ x : Fp, littleEndian? 32 x.val = some x.toBytes ∧
      isCanonicalValue (.bytes .fixed x.toBytes) = .ok true ∧ readValue (.bytes .fixed x.toBytes) = .ok x := by
  have reads (form bs x) : readValue (.bytes form bs) = .ok x ↔ x.toBytes = bs :=
    readValue_bytes_eq_ok_iff.trans read_eq_ok_iff
  refine ⟨fun form bs => ⟨?_, ?_, reads form bs⟩, fun x => ⟨if_pos x.val_lt_bytes, ?_, (reads _ _ x).mpr rfl⟩⟩
  · rw [isCanonicalValue_bytes]
    exact congrArg Except.ok (Bool.eq_iff_iff.mpr (isCanonical_iff.trans decide_eq_true_iff.symm))
  · simp only [reads, exists_toBytes_iff, isCanonicalValue_bytes, Except.ok.injEq]
  · rw [isCanonicalValue_bytes]
    exact congrArg Except.ok (exists_toBytes_iff.mp ⟨x, rfl⟩)

end Fp
end AccountInput
