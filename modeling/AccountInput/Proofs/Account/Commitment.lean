import AccountInput.Account.Commitment
import AccountInput.Proofs.HashInput.Unpacking

namespace AccountInput

theorem Amount.toFp_eq_iff {a b : Amount} : a.toFp = b.toFp ↔ a.val = b.val :=
  ⟨congrArg Fp.val, fun same => Fp.ext same⟩

theorem BlockTime.toFp_eq_iff {t u : BlockTime} : t.toFp = u.toFp ↔ t.val % 2 ^ 32 = u.val % 2 ^ 32 :=
  ⟨congrArg Fp.val, fun same => Fp.ext same⟩

theorem Schedule.atoms_eq_iff {d e : Schedule} : d.atoms = e.atoms ↔ d.CommitsLike e := by
  simp only [atoms, List.cons.injEq, Atom.field.injEq, Atom.packed.injEq, and_true, Amount.toFp_eq_iff,
    BlockTime.toFp_eq_iff]
  constructor
  · rintro ⟨balance, cliff, amount, period, increment⟩
    exact ⟨balance, cliff, amount, period, increment⟩
  · rintro ⟨balance, cliff, amount, period, increment⟩
    exact ⟨balance, cliff, amount, period, increment⟩

theorem Timing.atoms_eq_iff {t u : Timing} : t.atoms = u.atoms ↔ t.CommitsLike u := by
  simp only [atoms, List.cons.injEq, Atom.packed.injEq, and_true, Schedule.atoms_eq_iff]
  constructor
  · rintro ⟨mark, schedules⟩
    cases t with
    | untimed =>
      cases u with
      | untimed => exact .untimed
      | timed e => exact absurd (congrArg Fp.val mark) Nat.zero_ne_one
    | timed d =>
      cases u with
      | untimed => exact absurd (congrArg Fp.val mark) Nat.one_ne_zero
      | timed e => exact .timed schedules
  · rintro (_ | alike)
    · exact ⟨rfl, rfl, rfl, rfl, rfl, rfl⟩
    · exact ⟨rfl, alike⟩

theorem TokenSymbol.atoms_eq_iff {s t : TokenSymbol} : s.atoms = t.atoms ↔ s.bytes.take 6 = t.bytes.take 6 := by
  simp only [atoms, List.cons.injEq, Atom.packed.injEq, and_true]
  constructor
  · intro same
    have length : s.logical.length = t.logical.length := by
      rw [logical, logical, List.length_take, List.length_take, s.length_eq, t.length_eq]
    exact ofLittleEndian_injective length (congrArg Fp.val same)
  · intro same
    exact Fp.ext (congrArg ofLittleEndian same)

namespace AccountValue

theorem atoms_eq_iff {x y : AccountValue} (kinds : x.kind = y.kind) : x.atoms = y.atoms ↔ x.CommitsLike y := by
  cases x <;> cases y <;> cases kinds
  case amount a b =>
    have single : (AccountValue.amount a).atoms = (AccountValue.amount b).atoms ↔ a.val = b.val := by
      simp only [atoms, Amount.hashInput, List.cons.injEq, Atom.field.injEq, and_true, Amount.toFp_eq_iff]
    exact single.trans ⟨.amount, fun (.amount same) => same⟩
  case schedule d e => exact Schedule.atoms_eq_iff.trans ⟨.schedule, fun (.schedule alike) => alike⟩
  case timing t u => exact Timing.atoms_eq_iff.trans ⟨.timing, fun (.timing alike) => alike⟩
  case symbol s t => exact TokenSymbol.atoms_eq_iff.trans ⟨.symbol, fun (.symbol same) => same⟩

theorem widths_atoms (x : AccountValue) : x.atoms.map Atom.width? =
    match x.kind with
    | .amount => [none]
    | .schedule => [none, some 32, none, some 32, none]
    | .timing => [some 1, none, some 32, none, some 32, none]
    | .symbol => [some 48] := by
  cases x <;> rfl

theorem valid_of_mem {x : AccountValue} {a : Atom} (member : a ∈ x.atoms) : a.Valid := by
  cases x with
  | amount b =>
    cases List.mem_singleton.mp member
    trivial
  | schedule d => exact Schedule.valid_of_mem member
  | timing t => exact Timing.valid_of_mem member
  | symbol s => exact TokenSymbol.valid_of_mem member

theorem append_appends (x : AccountValue) : x.append.Appends (.ok x.atoms) := by
  cases x with
  | amount a => exact HashInput.Sink.appends_splice (.amount a)
  | schedule d => exact HashInput.Sink.appends_schedule d
  | timing t => exact HashInput.Sink.appends_timing (.timing t)
  | symbol s => exact HashInput.Sink.appends_symbol (.symbol s)

theorem appendAll_appends (xs : List AccountValue) : (appendAll xs).Appends (.ok (xs.flatMap atoms)) := by
  induction xs with
  | nil =>
    intro h
    exact congrArg (fun as => (Except.ok (), HashInput.mk as)) (List.append_nil h.atoms).symm
  | cons x xs ih => exact x.append_appends.andThen ih

theorem hashInput_eq (xs : List AccountValue) : hashInput xs = .ok ⟨xs.flatMap atoms⟩ :=
  (appendAll_appends xs).fresh_eq

theorem shape_eq_of_kinds {xs ys : List AccountValue} (kinds : xs.map kind = ys.map kind) :
    (HashInput.mk (xs.flatMap atoms)).shape = (HashInput.mk (ys.flatMap atoms)).shape := by
  simp only [HashInput.shape, List.map_flatMap, widths_atoms]
  induction xs generalizing ys with
  | nil =>
    cases List.map_eq_nil_iff.mp kinds.symm
    rfl
  | cons x xs ih =>
    cases ys with
    | nil => cases kinds
    | cons y ys =>
      obtain ⟨same, rest⟩ := List.cons.inj kinds
      rw [List.flatMap_cons, List.flatMap_cons, same, ih rest]

theorem length_atoms_eq_of_kind {x y : AccountValue} (kinds : x.kind = y.kind) :
    x.atoms.length = y.atoms.length := by
  rw [← List.length_map Atom.width?, widths_atoms, kinds, ← widths_atoms, List.length_map]

/-- Values of one kind make as many atoms, so the atoms of a list fall apart into those of its
values. -/
theorem flatMap_atoms_eq_iff {xs ys : List AccountValue} (kinds : xs.map kind = ys.map kind) :
    xs.flatMap atoms = ys.flatMap atoms ↔ List.Forall₂ CommitsLike xs ys := by
  induction xs generalizing ys with
  | nil =>
    cases List.map_eq_nil_iff.mp kinds.symm
    simp only [List.flatMap_nil, List.Forall₂.nil]
  | cons x xs ih =>
    cases ys with
    | nil => cases kinds
    | cons y ys =>
      obtain ⟨same, rest⟩ := List.cons.inj kinds
      rw [List.forall₂_cons, ← ih rest, ← atoms_eq_iff same, List.flatMap_cons, List.flatMap_cons]
      constructor
      · exact fun joined => List.append_inj joined (length_atoms_eq_of_kind same)
      · rintro ⟨head, others⟩
        rw [head, others]

end AccountValue

theorem HashInput.equal_iff {h k : HashInput} :
    (Value.hashInput h).equal (.hashInput k) = true ↔ h.atoms = k.atoms := by
  have leaf : (Value.hashInput h).equal (.hashInput k) = (h == k) := by
    simp only [Value.equal, Value.agrees, Value.leafEqual]
  rw [leaf, beq_iff_eq]
  exact ⟨congrArg HashInput.atoms, congrArg HashInput.mk⟩

namespace AccountValue

/-- Two lists of values of the same kinds place by place are hashed alike if and only if their
inputs are equal, which is so if and only if the values are committed to alike place by place.
Encoding and packing never fail, and an untimed account is not hashed as a timed one with the default
schedule, which makes the same atoms but for the mark. -/
theorem toFields_eq_iff_commitsLike (xs ys : List AccountValue) (kinds : xs.map kind = ys.map kind) :
    ∃ h k fs gs, hashInput xs = .ok h ∧ hashInput ys = .ok k ∧ h.toFields = .ok fs ∧ k.toFields = .ok gs ∧
      (fs = gs ↔ (Value.hashInput h).equal (.hashInput k) = true) ∧
      ((Value.hashInput h).equal (.hashInput k) = true ↔ List.Forall₂ CommitsLike xs ys) ∧
      ∀ i : Nat, xs[i]? = some (.timing .untimed) → ys[i]? = some (.timing (.timed .default)) → fs ≠ gs := by
  have valid (zs : List AccountValue) : ∀ a ∈ zs.flatMap atoms, a.Valid := by
    intro a member
    obtain ⟨z, _, inAtoms⟩ := List.mem_flatMap.mp member
    exact valid_of_mem inAtoms
  obtain ⟨fs, run, _⟩ := HashInput.toFields_of_valid (h := ⟨xs.flatMap atoms⟩) (valid xs)
  obtain ⟨gs, run', _⟩ := HashInput.toFields_of_valid (h := ⟨ys.flatMap atoms⟩) (valid ys)
  have equal := HashInput.equal_iff (h := ⟨xs.flatMap atoms⟩) (k := ⟨ys.flatMap atoms⟩)
  have alike := equal.trans (flatMap_atoms_eq_iff kinds)
  have absorbed := HashInput.toFields_eq_iff_atoms_eq (h := ⟨xs.flatMap atoms⟩) (k := ⟨ys.flatMap atoms⟩)
    (valid xs) (valid ys) (shape_eq_of_kinds kinds)
  rw [run, run', Except.ok.injEq, ← equal] at absorbed
  refine ⟨_, _, _, _, hashInput_eq xs, hashInput_eq ys, run, run', absorbed, alike, ?_⟩
  intro i untimed timed same
  obtain ⟨atX, valueX⟩ := List.getElem?_eq_some_iff.mp untimed
  obtain ⟨atY, valueY⟩ := List.getElem?_eq_some_iff.mp timed
  have place := (List.forall₂_iff_get.mp (alike.mp (absorbed.mp same))).2 i atX atY
  rw [List.get_eq_getElem, List.get_eq_getElem, valueX, valueY] at place
  cases place with
  | timing likeTimed => cases likeTimed

/-- A late cliff may pass for an early one, but an untimed account not for one with the default schedule. -/
theorem toFields_ne_untimed_after_late_cliff :
    List.map kind [.schedule { Schedule.default with cliffTime := ⟨2 ^ 32, by decide⟩ }, .timing .untimed] =
      List.map kind [.schedule .default, .timing (.timed .default)] ∧
    ∃ h k fs gs,
      hashInput [.schedule { Schedule.default with cliffTime := ⟨2 ^ 32, by decide⟩ }, .timing .untimed] =
        .ok h ∧
      hashInput [.schedule .default, .timing (.timed .default)] = .ok k ∧
      h.toFields = .ok fs ∧ k.toFields = .ok gs ∧ fs ≠ gs := by
  refine ⟨rfl, ?_⟩
  obtain ⟨h, k, fs, gs, made, made', run, run', _, _, differ⟩ := toFields_eq_iff_commitsLike
    [.schedule { Schedule.default with cliffTime := ⟨2 ^ 32, by decide⟩ }, .timing .untimed]
    [.schedule .default, .timing (.timed .default)] rfl
  exact ⟨h, k, fs, gs, made, made', run, run', differ 1 rfl rfl⟩

end AccountValue

end AccountInput
