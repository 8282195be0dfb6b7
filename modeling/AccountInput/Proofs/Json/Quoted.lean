import Mathlib.Tactic.SplitIfs
import AccountInput.Json.Writer
import AccountInput.Proofs.Json.Spelled
import AccountInput.Proofs.Text.Hex

namespace AccountInput

namespace Text

/-- The code units of a character: its number, or the two surrogates of one that takes two. -/
def codeUnits (c : Char) : List Nat :=
  if c.toNat < 0x10000 then [c.toNat]
  else [0xd800 + (c.toNat - 0x10000) / 0x400, 0xdc00 + (c.toNat - 0x10000) % 0x400]

theorem isHighSurrogate_iff {n : Nat} : isHighSurrogate n = true ↔ 0xd800 ≤ n ∧ n < 0xdc00 := by
  rw [isHighSurrogate, Bool.and_eq_true, decide_eq_true_iff, decide_eq_true_iff]

theorem isLowSurrogate_iff {n : Nat} : isLowSurrogate n = true ↔ 0xdc00 ≤ n ∧ n < 0xe000 := by
  rw [isLowSurrogate, Bool.and_eq_true, decide_eq_true_iff, decide_eq_true_iff]

/-- A unit that begins no pair is a character of its own. -/
theorem ofPairs_cons {n : Nat} (alone : ¬isHighSurrogate n = true) (ns : List Nat) :
    ofPairs (n :: ns) = loneUnit n :: ofPairs ns := by
  cases ns with
  | nil => rfl
  | cons m ns => rw [ofPairs, if_neg fun pair => alone (Bool.and_eq_true_iff.mp pair).1]

theorem ofPairs_codeUnits (c : Char) (ns : List Nat) : ofPairs (codeUnits c ++ ns) = c :: ofPairs ns := by
  have valid : c.toNat < 0xd800 ∨ 0xdfff < c.toNat ∧ c.toNat < 0x110000 := c.valid
  unfold codeUnits
  split
  · have high : ¬isHighSurrogate c.toNat = true := fun high => by
      have range := isHighSurrogate_iff.mp high
      omega
    have low : ¬isLowSurrogate c.toNat = true := fun low => by
      have range := isLowSurrogate_iff.mp low
      omega
    rw [List.singleton_append, ofPairs_cons high, loneUnit, if_neg fun half => (Bool.or_eq_true_iff.mp half).elim high low,
      Char.ofNat_toNat]
  · rename_i wide
    have high : isHighSurrogate (0xd800 + (c.toNat - 0x10000) / 0x400) = true := isHighSurrogate_iff.mpr (by omega)
    have low : isLowSurrogate (0xdc00 + (c.toNat - 0x10000) % 0x400) = true := isLowSurrogate_iff.mpr (by omega)
    have number : 0x10000 + (0xd800 + (c.toNat - 0x10000) / 0x400 - 0xd800) * 0x400 +
        (0xdc00 + (c.toNat - 0x10000) % 0x400 - 0xdc00) = c.toNat := by omega
    rw [List.cons_append, List.singleton_append, ofPairs, if_pos (Bool.and_eq_true_iff.mpr ⟨high, low⟩), number,
      Char.ofNat_toNat]

theorem ofPairs_flatMap_codeUnits (cs : List Char) : ofPairs (cs.flatMap codeUnits) = cs := by
  induction cs with
  | nil => rfl
  | cons c cs ih => rw [List.flatMap_cons, ofPairs_codeUnits, ih]

end Text

namespace Json

open Text

theorem SpellsUnits.append {ns ms : List Nat} {cs ds : List Char} (first : SpellsUnits ns cs)
    (second : SpellsUnits ms ds) : SpellsUnits (ns ++ ms) (cs ++ ds) := by
  induction first with
  | nil => exact second
  | plain above other _ ih => exact .plain above other ih
  | short letter _ ih => exact .short letter ih
  | unit digits _ ih => exact .unit digits ih

theorem spellsUnits_unitEscape {n : Nat} (unit : n < 0x10000) : SpellsUnits [n] (unitEscape n) := by
  have digits : hex4? (Hex.digit (n / 16 / 16 / 16)) (Hex.digit (n / 16 / 16)) (Hex.digit (n / 16)) (Hex.digit n) =
      some n := by
    simp only [hex4?, hexDigit?_digit, bind, Option.bind_some, pure, Option.some.injEq]
    omega
  exact .unit digits .nil

theorem spellsUnits_wideEscape (c : Char) : SpellsUnits (codeUnits c) (wideEscape c.toNat) := by
  have valid : c.toNat < 0xd800 ∨ 0xdfff < c.toNat ∧ c.toNat < 0x110000 := c.valid
  rw [codeUnits, wideEscape]
  split
  · exact spellsUnits_unitEscape ‹_›
  · exact (spellsUnits_unitEscape (by omega)).append (spellsUnits_unitEscape (by omega))

theorem spellsUnits_escaped (c : Char) : SpellsUnits (codeUnits c) (escaped c) := by
  unfold escaped
  split_ifs with mark printable control control control control control
  · rcases mark with rfl | rfl <;> exact .short rfl .nil
  · rw [Quoted.isAsciiPrintable, Bool.and_eq_true, decide_eq_true_iff, decide_eq_true_iff] at printable
    rw [codeUnits, if_pos (by omega)]
    exact .plain printable.1 (not_or.mp mark) .nil
  any_goals
    subst control
    exact .short rfl .nil
  exact spellsUnits_wideEscape c

theorem spellsUnits_flatMap_escaped (cs : List Char) : SpellsUnits (cs.flatMap codeUnits) (cs.flatMap escaped) := by
  induction cs with
  | nil => exact .nil
  | cons c cs ih => exact (spellsUnits_escaped c).append ih

/-- A text as it is written spells itself. -/
theorem spells_quote (s : String) : Spells (.name s) (quote s).toList := by
  have spells := Spells.name (spellsUnits_flatMap_escaped s.toList)
  rw [ofPairs_flatMap_codeUnits, String.ofList_toList] at spells
  rw [quote, String.toList_ofList]
  exact spells

end Json
end AccountInput
