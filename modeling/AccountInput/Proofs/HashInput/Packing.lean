import AccountInput.HashInput.Chunk
import AccountInput.Proofs.HashInput.Appending

namespace AccountInput
namespace HashInput
namespace Chunk

/-- The values of a chunk can have been appended. -/
def Valid (c : Chunk) : Prop := ∀ p ∈ c, (Atom.packed p.1 p.2).Valid

theorem Valid.head {p : Fp × Int} {c : Chunk} (valid : Valid (p :: c)) : (Atom.packed p.1 p.2).Valid :=
  valid p (List.mem_cons_self ..)

theorem Valid.tail {p : Fp × Int} {c : Chunk} (valid : Valid (p :: c)) : Valid c :=
  fun q member => valid q (List.mem_cons_of_mem p member)

theorem Valid.append {c d : Chunk} (first : Valid c) (second : Valid d) : Valid (c ++ d) := by
  intro p member
  rcases List.mem_append.mp member with inFirst | inSecond
  · exact first p inFirst
  · exact second p inSecond

theorem Valid.singleton {p : Fp × Int} (valid : (Atom.packed p.1 p.2).Valid) : Valid [p] := by
  intro q member
  cases List.mem_singleton.mp member
  exact valid

theorem width_nonneg {c : Chunk} (valid : Valid c) : 0 ≤ width c := by
  induction c with
  | nil => exact Int.le_refl 0
  | cons p c ih =>
    have positive := valid.head.1
    have rest := ih valid.tail
    rw [width_cons]
    omega

theorem width_pos {c : Chunk} (valid : Valid c) (nonempty : c ≠ []) : 0 < width c := by
  cases c with
  | nil => exact absurd rfl nonempty
  | cons p c =>
    have positive := valid.head.1
    have rest := width_nonneg valid.tail
    rw [width_cons]
    omega

theorem toNat_width_append {c d : Chunk} (first : Valid c) (second : Valid d) :
    (width (c ++ d)).toNat = (width c).toNat + (width d).toNat := by
  rw [width_append, Int.toNat_add (width_nonneg first) (width_nonneg second)]

theorem value_append {c d : Chunk} (first : Valid c) (second : Valid d) :
    value (c ++ d) = value c * 2 ^ (width d).toNat + value d := by
  induction c with
  | nil => simp only [List.nil_append, value, Nat.zero_mul, Nat.zero_add]
  | cons p c ih =>
    rw [List.cons_append, value, value, ih first.tail, toNat_width_append first.tail second, Nat.pow_add,
      ← Nat.mul_assoc, Nat.add_mul, Nat.add_assoc]

/-- A chunk fits into its width. -/
theorem value_lt {c : Chunk} (valid : Valid c) : value c < 2 ^ (width c).toNat := by
  induction c with
  | nil => exact Nat.one_pos
  | cons p c ih =>
    have low := ih valid.tail
    have fits : p.1.val + 1 ≤ 2 ^ p.2.toNat := valid.head.2.2
    have positive := valid.head.1
    have split : (width (p :: c)).toNat = p.2.toNat + (width c).toNat := by
      rw [width_cons, Int.toNat_add (by omega) (width_nonneg valid.tail)]
    calc value (p :: c) = p.1.val * 2 ^ (width c).toNat + value c := rfl
      _ < p.1.val * 2 ^ (width c).toNat + 2 ^ (width c).toNat := Nat.add_lt_add_left low _
      _ = (p.1.val + 1) * 2 ^ (width c).toNat := (Nat.succ_mul _ _).symm
      _ ≤ 2 ^ p.2.toNat * 2 ^ (width c).toNat := Nat.mul_le_mul_right _ fits
      _ = 2 ^ (width (p :: c)).toNat := by rw [split, Nat.pow_add]

theorem pow_width_le {c : Chunk} (fits : width c ≤ Atom.maxBits) :
    2 ^ (width c).toNat ≤ 2 ^ Atom.maxBits :=
  Nat.pow_le_pow_right Nat.two_pos (by omega)

theorem pow_maxBits_lt : 2 ^ Atom.maxBits < modulus := by decide

theorem value_lt_modulus {c : Chunk} (valid : Valid c) (fits : width c ≤ Atom.maxBits) : value c < modulus :=
  Nat.lt_of_lt_of_le (value_lt valid) (Nat.le_trans (pow_width_le fits) (Nat.le_of_lt pow_maxBits_lt))

@[simp] theorem width_singleton (p : Fp × Int) : width [p] = p.2 := Int.add_zero p.2

@[simp] theorem value_singleton (p : Fp × Int) : value [p] = p.1.val := Nat.mul_one p.1.val

/-- Shifting the accumulated number and filling in the low bits is what a further value does to the
number of a chunk. -/
theorem shifted_or {c : Chunk} {p : Fp × Int} (valid : Valid c) (next : (Atom.packed p.1 p.2).Valid) :
    (value c <<< p.2.toNat) ||| p.1.val = value (c ++ [p]) := by
  rw [value_append valid (.singleton next), width_singleton, value_singleton,
    ← Nat.shiftLeft_add_eq_or_of_lt next.2.2, Nat.shiftLeft_eq]

theorem Split.first_value {p q : Fp × Int} {ps : List (Fp × Int)} {next : Chunk} {cs : List Chunk}
    (split : Split (p :: ps) cs) (first : next ∈ cs.head?) (head : q ∈ next.head?) : q = p := by
  cases cs with
  | nil => cases first
  | cons c cs =>
    cases Option.some.inj first
    cases next with
    | nil => cases head
    | cons r next =>
      have flat := split.flatten_eq
      simp only [List.flatten_cons, List.cons_append, List.cons.injEq] at flat
      exact (Option.some.inj head).symm.trans flat.1

theorem Split.valid {ps : List (Fp × Int)} {cs : List Chunk} (split : Split ps cs) (valid : Valid ps) :
    ∀ c ∈ cs, Valid c := by
  intro c member p inChunk
  apply valid
  rw [← split.flatten_eq]
  exact List.mem_flatten_of_mem member inChunk

theorem Split.cons {c : Chunk} {p : Fp × Int} {ps : List (Fp × Int)} {cs : List Chunk} (nonempty : c ≠ [])
    (fits : width c ≤ Atom.maxBits) (full : (modulusBits : Int) ≤ width c + p.2) (rest : Split (p :: ps) cs) :
    Split (c ++ p :: ps) (c :: cs) where
  flatten_eq := by rw [List.flatten_cons, rest.flatten_eq]
  nonempty := List.forall_mem_cons.mpr ⟨nonempty, rest.nonempty⟩
  fits := List.forall_mem_cons.mpr ⟨fits, rest.fits⟩
  full := List.isChain_cons.mpr
    ⟨fun _ first q head => by rwa [rest.first_value first head], rest.full⟩

theorem Split.tail {c : Chunk} {ps : List (Fp × Int)} {cs : List Chunk} (split : Split ps (c :: cs)) :
    Split cs.flatten cs where
  flatten_eq := rfl
  nonempty := (List.forall_mem_cons.mp split.nonempty).2
  fits := (List.forall_mem_cons.mp split.fits).2
  full := (List.isChain_cons.mp split.full).2

/-- The chunks that packing closes are a split by the packing rule. -/
theorem split_splitOnto {c : Chunk} {ps : List (Fp × Int)} (fits : width c ≤ Atom.maxBits) (valid : Valid ps) :
    Split (c ++ ps) (splitOnto c ps) := by
  induction ps generalizing c with
  | nil =>
    by_cases empty : c = []
    · subst empty
      exact ⟨rfl, by simp [splitOnto], by simp [splitOnto], .nil⟩
    · simp only [splitOnto, List.isEmpty_iff, empty, if_false, List.append_nil]
      exact ⟨List.flatten_singleton, by simpa using empty, by simpa using fits, .singleton c⟩
  | cons p rest ih =>
    have narrow : p.2 ≤ Atom.maxBits := valid.head.2.1
    by_cases room : width c + p.2 < modulusBits
    · have fits' : width (c ++ [p]) ≤ Atom.maxBits := by
        rw [width_append, width_singleton]
        exact Int.lt_add_one_iff.mp room
      rw [splitOnto, if_pos room]
      simpa only [List.append_assoc, List.singleton_append] using ih fits' valid.tail
    · have nonempty : c ≠ [] := by
        rintro rfl
        rw [width_nil, Int.zero_add] at room
        exact room (Int.lt_add_one_iff.mpr narrow)
      rw [splitOnto, if_neg room]
      exact .cons nonempty fits (by omega) (ih (by rwa [width_singleton]) valid.tail)

/-- A chunk of a split cannot be longer: the next value would not fit. -/
theorem Split.not_longer {c e tail : Chunk} {ps : List (Fp × Int)} {cs : List Chunk} (split : Split ps (c :: cs))
    (rest : cs.flatten = e ++ tail) (valid : Valid e) (fits : width (c ++ e) ≤ Atom.maxBits) : e = [] := by
  cases e with
  | nil => rfl
  | cons p e =>
    have nonneg := width_nonneg valid.tail
    have full : (modulusBits : Int) ≤ width c + p.2 := by
      cases cs with
      | nil => cases rest
      | cons d ds =>
        have chain := (List.isChain_cons.mp split.full).1 d rfl
        cases d with
        | nil => exact absurd rfl (split.nonempty [] (by simp))
        | cons q d =>
          have same : q = p := (List.cons.inj rest).1
          exact same ▸ chain q rfl
    have bound : (Atom.maxBits : Int) = modulusBits - 1 := rfl
    rw [width_append, width_cons] at fits
    omega

theorem Split.unique {ps : List (Fp × Int)} {cs ds : List Chunk} (valid : Valid ps) (first : Split ps cs)
    (second : Split ps ds) : cs = ds := by
  induction cs generalizing ps ds with
  | nil =>
    cases ds with
    | nil => rfl
    | cons d ds =>
      have flat := second.flatten_eq.trans first.flatten_eq.symm
      exact absurd (List.append_eq_nil_iff.mp flat).1 (second.nonempty d (List.mem_cons_self ..))
  | cons c cs ih =>
    cases ds with
    | nil =>
      have flat := first.flatten_eq.trans second.flatten_eq.symm
      exact absurd (List.append_eq_nil_iff.mp flat).1 (first.nonempty c (List.mem_cons_self ..))
    | cons d ds =>
      have same : c ++ cs.flatten = d ++ ds.flatten := first.flatten_eq.trans second.flatten_eq.symm
      have validFirst : Valid (c ++ cs.flatten) := by rwa [← List.flatten_cons, first.flatten_eq]
      have validSecond : Valid (d ++ ds.flatten) := by rwa [← List.flatten_cons, second.flatten_eq]
      have heads : c = d := by
        rcases List.append_eq_append_iff.mp same with ⟨e, longer, rest⟩ | ⟨e, longer, rest⟩
        · have fits := second.fits d (List.mem_cons_self ..)
          rw [longer] at fits
          have extra := first.not_longer rest (fun p member => validSecond p (by simp [longer, member])) fits
          rw [longer, extra, List.append_nil]
        · have fits := first.fits c (List.mem_cons_self ..)
          rw [longer] at fits
          have extra := second.not_longer rest (fun p member => validFirst p (by simp [longer, member])) fits
          rw [longer, extra, List.append_nil]
      subst heads
      have tails : cs.flatten = ds.flatten := List.append_cancel_left same
      have validTail : Valid cs.flatten := fun p member => validFirst p (List.mem_append_right c member)
      rw [ih validTail first.tail (tails ▸ second.tail)]

end Chunk

open Chunk

theorem element_of_lt {n : Nat} (lt : n < modulus) : element n = .ok ⟨n, lt⟩ := by
  unfold element Fp.ofNat?
  rw [dif_pos lt]

/-- Packing follows the split by the packing rule. The accumulated number is that of the open chunk,
which fits, so no element is refused. -/
theorem packOnto_splitOnto {c : Chunk} {ps : List (Fp × Int)} (opened : Valid c)
    (fits : width c ≤ Atom.maxBits) (valid : Chunk.Valid ps) :
    ∃ fs, packOnto (value c) (width c) ps = .ok fs ∧ fs.map Fp.val = (splitOnto c ps).map value := by
  induction ps generalizing c with
  | nil =>
    by_cases empty : c = []
    · subst empty
      exact ⟨[], rfl, rfl⟩
    · refine ⟨[⟨value c, value_lt_modulus opened fits⟩], ?_, ?_⟩
      · rw [packOnto, if_pos (width_pos opened empty), element_of_lt (value_lt_modulus opened fits)]
        rfl
      · simp only [splitOnto, List.isEmpty_iff, empty, if_false]
        rfl
  | cons p rest ih =>
    have next := valid.head
    have single : Valid [p] := .singleton next
    by_cases room : width c + p.2 < modulusBits
    · have wider : Valid (c ++ [p]) := opened.append single
      have fits' : width (c ++ [p]) ≤ Atom.maxBits := by
        rw [width_append, width_singleton]
        exact Int.lt_add_one_iff.mp room
      have positive : ¬ p.2 < 0 := by
        have := next.1
        omega
      obtain ⟨fs, run, values⟩ := ih wider fits' valid.tail
      refine ⟨fs, ?_, ?_⟩
      · rw [packOnto, if_pos room, if_neg positive, shifted_or opened next, ← run, width_append, width_singleton]
      · rw [splitOnto, if_pos room, values]
    · have fits' : width [p] ≤ Atom.maxBits := by
        rw [width_singleton]
        exact next.2.1
      obtain ⟨fs, run, values⟩ := ih single fits' valid.tail
      rw [value_singleton, width_singleton] at run
      refine ⟨⟨value c, value_lt_modulus opened fits⟩ :: fs, ?_, ?_⟩
      · rw [packOnto, if_neg room, element_of_lt (value_lt_modulus opened fits), run]
        rfl
      · rw [splitOnto, if_neg room, List.map_cons, List.map_cons, values]

theorem valid_packed {h : HashInput} (valid : ∀ a ∈ h.atoms, a.Valid) : Chunk.Valid h.packed := by
  intro p member
  obtain ⟨a, inAtoms, kept⟩ := List.mem_filterMap.mp member
  cases a with
  | field v => cases kept
  | packed v bits =>
    cases kept
    exact valid _ inAtoms

theorem toFields_of_valid {h : HashInput} (valid : ∀ a ∈ h.atoms, a.Valid) :
    ∃ fs, h.toFields = .ok (h.fields ++ fs) ∧ fs.map Fp.val = (splitOnto [] h.packed).map value := by
  have empty : Chunk.Valid [] := by
    intro p member
    cases member
  obtain ⟨fs, run, values⟩ := packOnto_splitOnto empty (by decide) (valid_packed valid)
  refine ⟨fs, ?_, values⟩
  unfold toFields
  have start : packOnto 0 0 h.packed = .ok fs := run
  rw [start]
  rfl

namespace Builders

/-- What is absorbed in place of a builder: the whole elements, then one element for each chunk of
the one split of the packed values by the packing rule. An element is the exact number of its chunk,
which is below two to the width of the chunk, and so below the modulus. -/
theorem toFields_run_eq_chunk_values (calls : List Call) (n : Nat) :
    ∃ chunks elements,
      Split (run calls n).packed chunks ∧
      (∀ others, Split (run calls n).packed others → others = chunks) ∧
      (run calls n).toFields = .ok ((run calls n).fields ++ elements) ∧
      elements.map Fp.val = chunks.map value ∧
      (∀ c ∈ chunks, value c < 2 ^ (width c).toNat ∧ 2 ^ (width c).toNat ≤ 2 ^ 254) ∧
      2 ^ 254 < modulus ∧
      ((run calls n).packed = [] → elements = []) := by
  have valid := run_valid calls n
  have packed := valid_packed valid
  obtain ⟨fs, absorbed, values⟩ := toFields_of_valid valid
  have split : Split (run calls n).packed (splitOnto [] (run calls n).packed) :=
    split_splitOnto (c := []) (by decide) packed
  refine ⟨_, fs, split, fun others other => other.unique packed split, absorbed, values,
    fun c member => ⟨value_lt (split.valid packed c member), pow_width_le (split.fits c member)⟩,
    pow_maxBits_lt, fun none => ?_⟩
  rw [none] at values
  exact List.map_eq_nil_iff.mp values

end Builders
end HashInput
end AccountInput
