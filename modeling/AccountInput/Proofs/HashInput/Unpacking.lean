import AccountInput.Proofs.HashInput.Packing

namespace AccountInput
namespace HashInput
namespace Chunk

theorem width_eq_of_widths {c d : Chunk} (widths : c.map Prod.snd = d.map Prod.snd) : width c = width d :=
  congrArg List.sum widths

theorem digits_unique {a b x y radix : Nat} (below : x < radix) (below' : y < radix)
    (same : a * radix + x = b * radix + y) : a = b ∧ x = y := by
  have positive : 0 < radix := Nat.zero_lt_of_lt below
  obtain ⟨high, low⟩ := (Nat.div_mod_unique positive).mpr
    ⟨(by rw [Nat.mul_comm, Nat.add_comm] : x + radix * a = a * radix + x), below⟩
  obtain ⟨high', low'⟩ := (Nat.div_mod_unique positive).mpr
    ⟨(by rw [Nat.mul_comm, Nat.add_comm] : y + radix * b = b * radix + y), below'⟩
  rw [same] at high low
  exact ⟨high.symm.trans high', low.symm.trans low'⟩

/-- The values of a chunk are the digits of its number. -/
theorem value_injective {c d : Chunk} (first : Valid c) (second : Valid d)
    (widths : c.map Prod.snd = d.map Prod.snd) (same : value c = value d) : c = d := by
  induction c generalizing d with
  | nil => exact (List.map_eq_nil_iff.mp widths.symm).symm
  | cons p c ih =>
    cases d with
    | nil => cases widths
    | cons q d =>
      obtain ⟨bits, rest⟩ := List.cons.inj widths
      have below := value_lt first.tail
      have below' := value_lt second.tail
      simp only [value] at same
      rw [← width_eq_of_widths rest] at below' same
      obtain ⟨high, low⟩ := digits_unique below below' same
      rw [ih first.tail second.tail rest low, Prod.ext (Fp.ext high) bits]

/-- Which values share a chunk depends on the widths alone. -/
theorem splitOnto_widths {c d : Chunk} {ps qs : List (Fp × Int)} (opened : c.map Prod.snd = d.map Prod.snd)
    (widths : ps.map Prod.snd = qs.map Prod.snd) :
    (splitOnto c ps).map (List.map Prod.snd) = (splitOnto d qs).map (List.map Prod.snd) := by
  induction ps generalizing c d qs with
  | nil =>
    cases List.map_eq_nil_iff.mp widths.symm
    have empty : c.isEmpty = d.isEmpty := by
      rw [← List.isEmpty_map, opened, List.isEmpty_map]
    simp only [splitOnto, empty]
    split
    · rfl
    · simp only [List.map_cons, List.map_nil, opened]
  | cons p ps ih =>
    cases qs with
    | nil => cases widths
    | cons q qs =>
      obtain ⟨bits, rest⟩ := List.cons.inj widths
      simp only [splitOnto, width_eq_of_widths opened, bits]
      split
      · have longer : (c ++ [p]).map Prod.snd = (d ++ [q]).map Prod.snd := by
          simp only [List.map_append, opened, List.map_cons, bits, List.map_nil]
        exact ih longer rest
      · have single : [p].map Prod.snd = [q].map Prod.snd := congrArg (fun b => [b]) bits
        simp only [List.map_cons, opened, ih single rest]

theorem chunks_eq {cs ds : List Chunk} (first : ∀ c ∈ cs, Valid c) (second : ∀ d ∈ ds, Valid d)
    (widths : cs.map (List.map Prod.snd) = ds.map (List.map Prod.snd)) (values : cs.map value = ds.map value) :
    cs = ds := by
  induction cs generalizing ds with
  | nil => exact (List.map_eq_nil_iff.mp values.symm).symm
  | cons c cs ih =>
    cases ds with
    | nil => cases values
    | cons d ds =>
      obtain ⟨valid, rest⟩ := List.forall_mem_cons.mp first
      obtain ⟨valid', rest'⟩ := List.forall_mem_cons.mp second
      obtain ⟨bits, tailBits⟩ := List.cons.inj widths
      obtain ⟨number, numbers⟩ := List.cons.inj values
      rw [value_injective valid valid' bits number, ih rest rest' tailBits numbers]

end Chunk

open Chunk

theorem widths_packed (h : HashInput) : h.packed.map Prod.snd = h.shape.filterMap id := by
  unfold packed shape
  induction h.atoms with
  | nil => rfl
  | cons a as ih =>
    cases a with
    | field v => exact ih
    | packed v bits => exact congrArg (bits :: ·) ih

theorem length_fields (h : HashInput) : h.fields.length = h.shape.countP Option.isNone := by
  unfold fields shape
  induction h.atoms with
  | nil => rfl
  | cons a as ih =>
    cases a with
    | field v => simp only [List.filterMap_cons, List.length_cons, ih, List.map_cons, Atom.width?,
        List.countP_cons, Option.isNone_none, if_true]
    | packed v bits => simpa only [List.filterMap_cons, List.map_cons, Atom.width?, List.countP_cons,
        Option.isNone_some, Bool.false_eq_true, if_false, Nat.add_zero] using ih

/-- The whole elements and the packed values find their places again by the shape. -/
theorem atoms_eq_of_shape {h k : HashInput} (shape : h.shape = k.shape) (fields : h.fields = k.fields)
    (packed : h.packed = k.packed) : h.atoms = k.atoms := by
  unfold HashInput.shape at shape
  unfold HashInput.fields at fields
  unfold HashInput.packed at packed
  generalize h.atoms = as at shape fields packed
  generalize k.atoms = bs at shape fields packed
  induction as generalizing bs with
  | nil => exact (List.map_eq_nil_iff.mp shape.symm).symm
  | cons a as ih =>
    cases bs with
    | nil => cases shape
    | cons b bs =>
      obtain ⟨head, rest⟩ := List.cons.inj shape
      cases a with
      | field v =>
        cases b with
        | field w =>
          obtain ⟨value, values⟩ := List.cons.inj fields
          rw [value, ih bs rest values packed]
        | packed w bits => cases head
      | packed v bits =>
        cases b with
        | field w => cases head
        | packed w bits' =>
          obtain ⟨value, values⟩ := List.cons.inj packed
          cases value
          rw [ih bs rest fields values]

theorem atoms_eq_of_absorbed {h k : HashInput} (valid : ∀ a ∈ h.atoms, a.Valid)
    (valid' : ∀ a ∈ k.atoms, a.Valid) (shape : h.shape = k.shape) (absorbed : h.toFields = k.toFields) : h.atoms = k.atoms := by
  obtain ⟨fs, run, values⟩ := toFields_of_valid valid
  obtain ⟨gs, run', values'⟩ := toFields_of_valid valid'
  rw [run, run'] at absorbed
  have length : h.fields.length = k.fields.length := by rw [length_fields, length_fields, shape]
  obtain ⟨fields, elements⟩ := List.append_inj (Except.ok.inj absorbed) length
  have widths : h.packed.map Prod.snd = k.packed.map Prod.snd := by rw [widths_packed, widths_packed, shape]
  have split := split_splitOnto (c := []) (by decide) (valid_packed valid)
  have split' := split_splitOnto (c := []) (by decide) (valid_packed valid')
  have chunks : splitOnto [] h.packed = splitOnto [] k.packed := by
    apply chunks_eq
    · exact split.valid (valid_packed valid)
    · exact split'.valid (valid_packed valid')
    · exact splitOnto_widths rfl widths
    · rw [← values, ← values', elements]
  have packed : h.packed = k.packed := by
    rw [← split.flatten_eq.trans (List.nil_append _), chunks, split'.flatten_eq, List.nil_append]
  exact atoms_eq_of_shape shape fields packed

theorem toFields_eq_iff_atoms_eq {h k : HashInput} (valid : ∀ a ∈ h.atoms, a.Valid)
    (valid' : ∀ a ∈ k.atoms, a.Valid) (shape : h.shape = k.shape) :
    h.toFields = k.toFields ↔ h.atoms = k.atoms := by
  constructor
  · exact atoms_eq_of_absorbed valid valid' shape
  · intro same
    cases h
    cases k
    cases same
    rfl

namespace Builders

/-- Two builders whose atoms are of the same kinds and widths, place by place, and that are absorbed
alike have the same atoms, however they were made. -/
theorem atoms_eq_of_toFields_eq (calls others : List Call) (n m : Nat)
    (shape : (run calls n).shape = (run others m).shape)
    (absorbed : (run calls n).toFields = (run others m).toFields) :
    (run calls n).atoms = (run others m).atoms :=
  atoms_eq_of_absorbed (run_valid calls n) (run_valid others m) shape absorbed

theorem atoms_eq_of_toFields_eq_spliced :
    (run [.own 0 (.field (.int 7)) trivial, .own 0 (.bool (.bool true)) trivial,
      .own 0 (.u32 (.int 5)) trivial] 0).atoms =
    (run [.own 1 (.packed (.int 1) (.int 1)) trivial, .own 2 (.field (.int (7 + modulus))) trivial,
      .splice 2 1, .own 2 (.packed (.int 5) (.int 32)) trivial] 2).atoms :=
  atoms_eq_of_toFields_eq _ _ 0 2 (by rfl) (by rfl)

end Builders
end HashInput
end AccountInput
