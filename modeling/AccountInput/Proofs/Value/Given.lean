import AccountInput.Proofs.Value.Keys
import AccountInput.Value.Given

namespace AccountInput
namespace Value

theorem allGivenBy_iff {xs ys : List Value} : AllGivenBy xs ys ↔ List.Forall₂ GivenBy xs ys := by
  induction xs generalizing ys with
  | nil =>
    cases ys with
    | nil => exact iff_of_true trivial .nil
    | cons y ys => exact iff_of_false id fun given => nomatch given
  | cons x xs ih =>
    cases ys with
    | nil => exact iff_of_false id fun given => nomatch given
    | cons y ys => exact (and_congr_right fun _ => ih).trans List.forall₂_cons.symm

/-- Fields under the same names, of which each is given by that in its place. -/
def FieldsGivenBy (fields given : List (String × Value)) : Prop :=
  List.Forall₂ (fun f g => g.1 = f.1 ∧ f.2.GivenBy g.2) fields given

theorem eachGivenBy_ofFields_iff {fields : List (String × Value)} {es : List (Value × Value)} :
    EachGivenBy (ofFields fields) es ↔ ∃ given, es = ofFields given ∧ FieldsGivenBy fields given := by
  induction fields generalizing es with
  | nil =>
    cases es with
    | nil => exact ⟨fun _ => ⟨[], rfl, .nil⟩, fun _ => trivial⟩
    | cons e es =>
      refine ⟨fun none => none.elim, ?_⟩
      rintro ⟨_, same, ⟨⟩⟩
      cases same
  | cons f fields ih =>
    obtain ⟨name, v⟩ := f
    cases es with
    | nil =>
      refine ⟨fun none => none.elim, ?_⟩
      rintro ⟨_, same, ⟨⟩⟩
      cases same
    | cons e es =>
      obtain ⟨k, w⟩ := e
      constructor
      · rintro ⟨rfl, held, rest⟩
        obtain ⟨given, rfl, all⟩ := ih.mp rest
        exact ⟨(name, w) :: given, rfl, .cons ⟨rfl, held⟩ all⟩
      · rintro ⟨given, same, all⟩
        cases all with
        | cons first rest =>
          cases same
          exact ⟨congrArg text first.1, first.2, ih.mpr ⟨_, rfl, rest⟩⟩

theorem givenBy_int_iff {n : Int} {w : Value} : (int n).GivenBy w ↔ w = .int n := Iff.rfl

theorem givenBy_text_iff {s : String} {w : Value} : (text s).GivenBy w ↔ w = .text s := Iff.rfl

theorem givenBy_list_iff {xs : List Value} {w : Value} :
    (list xs).GivenBy w ↔ ∃ ys, w.items? = some ys ∧ List.Forall₂ GivenBy xs ys :=
  exists_congr fun _ => and_congr_right fun _ => allGivenBy_iff

theorem fieldsGivenBy_zip_iff {names : List String} {xs : List Value} (length : names.length = xs.length)
    {given : List (String × Value)} :
    FieldsGivenBy (names.zip xs) given ↔ ∃ ys, given = names.zip ys ∧ List.Forall₂ GivenBy xs ys := by
  induction names generalizing xs given with
  | nil =>
    obtain rfl : xs = [] := List.length_eq_zero_iff.mp length.symm
    constructor
    · rintro ⟨⟩
      exact ⟨[], rfl, .nil⟩
    · rintro ⟨_, rfl, ⟨⟩⟩
      exact .nil
  | cons name names ih =>
    cases xs with
    | nil => cases length
    | cons x xs =>
      constructor
      · rintro (_ | @⟨_, ⟨_, y⟩, _, _, ⟨rfl, held⟩, rest⟩)
        obtain ⟨ys, rfl, all⟩ := (ih (Nat.succ.inj length)).mp rest
        exact ⟨y :: ys, rfl, .cons held all⟩
      · rintro ⟨_, rfl, _ | ⟨held, rest⟩⟩
        exact .cons ⟨rfl, held⟩ ((ih (Nat.succ.inj length)).mpr ⟨_, rfl, rest⟩)

/-- What gives a dictionary of named values is a map with as many values under the same names. -/
theorem givenBy_dict_iff {names : List String} {xs : List Value} (length : names.length = xs.length) {w : Value} :
    (dict (ofFields (names.zip xs))).GivenBy w ↔
      ∃ es ys, w.entries? = some es ∧ es.Perm (ofFields (names.zip ys)) ∧ List.Forall₂ GivenBy xs ys := by
  change (∃ fs gs, w.entries? = some fs ∧ fs.Perm gs ∧ EachGivenBy _ gs) ↔ _
  simp only [eachGivenBy_ofFields_iff, fieldsGivenBy_zip_iff length]
  constructor
  · rintro ⟨es, _, entries, perm, _, rfl, ys, rfl, all⟩
    exact ⟨es, ys, entries, perm, all⟩
  · rintro ⟨es, ys, entries, perm, all⟩
    exact ⟨es, _, entries, perm, _, rfl, ys, rfl, all⟩

theorem allKeysDistinct_iff {xs : List Value} :
    allKeysDistinct xs = true ↔ ∀ x ∈ xs, x.keysDistinct = true := by
  induction xs with
  | nil => simp only [allKeysDistinct_nil, List.not_mem_nil, IsEmpty.forall_iff, implies_true]
  | cons x xs ih => rw [allKeysDistinct_cons, Bool.and_eq_true, ih, List.forall_mem_cons]

theorem eachKeysDistinct_iff {es : List (Value × Value)} :
    eachKeysDistinct es = true ↔ ∀ e ∈ es, e.1.keysDistinct = true ∧ e.2.keysDistinct = true := by
  induction es with
  | nil => simp only [eachKeysDistinct_nil, List.not_mem_nil, IsEmpty.forall_iff, implies_true]
  | cons e es ih => rw [eachKeysDistinct_cons, Bool.and_eq_true, Bool.and_eq_true, ih, List.forall_mem_cons]

theorem keysDistinct_of_items? {v : Value} (distinct : v.keysDistinct = true) {xs : List Value}
    (items : v.items? = some xs) {x : Value} (member : x ∈ xs) : x.keysDistinct = true := by
  cases v <;> cases items
  all_goals exact allKeysDistinct_iff.mp distinct x member

theorem distinct_of_entries? {v : Value} (distinct : v.keysDistinct = true) {es : List (Value × Value)}
    (entries : v.entries? = some es) :
    (es.Pairwise fun a b => sameKey b.1 a.1 = false) ∧ ∀ e ∈ es, e.2.keysDistinct = true := by
  cases v <;> cases entries
  all_goals
    simp only [keysDistinct_dict, keysDistinct_frozenDict, Bool.and_eq_true, distinctKeys, decide_eq_true_eq] at distinct
    exact ⟨distinct.1, fun e member => (eachKeysDistinct_iff.mp distinct.2 e member).2⟩

theorem keysDistinct_iff_of_items? {v : Value} {xs : List Value} (items : v.items? = some xs) :
    v.keysDistinct = true ↔ ∀ x ∈ xs, x.keysDistinct = true := by
  cases v <;> cases items
  all_goals exact allKeysDistinct_iff

theorem keysDistinct_iff_of_entries? {v : Value} {es : List (Value × Value)} (entries : v.entries? = some es) :
    v.keysDistinct = true ↔ distinctKeys es = true ∧ ∀ e ∈ es, e.1.keysDistinct = true ∧ e.2.keysDistinct = true := by
  cases v <;> cases entries
  all_goals simp only [keysDistinct_dict, keysDistinct_frozenDict, Bool.and_eq_true, eachKeysDistinct_iff]

theorem keysDistinct_ofFields {fields : List (String × Value)} (distinct : (fields.map (·.1)).Nodup)
    (all : ∀ f ∈ fields, f.2.keysDistinct = true) : (dict (ofFields fields)).keysDistinct = true := by
  rw [keysDistinct_dict, Bool.and_eq_true, distinctKeys, decide_eq_true_eq, eachKeysDistinct_iff]
  refine ⟨sameKey_ofFields distinct, fun e member => ?_⟩
  obtain ⟨⟨name, v⟩, field, rfl⟩ := List.mem_map.mp member
  exact ⟨keysDistinct_text name, all (name, v) field⟩

/-- Entries that are fields with distinct names have distinct keys, in whatever order they stand. -/
theorem distinctKeys_of_perm {es : List (Value × Value)} {fields : List (String × Value)}
    (perm : es.Perm (ofFields fields)) (distinct : (fields.map (·.1)).Nodup) : distinctKeys es = true := by
  have keys : (ofFields fields).map (·.1) = (fields.map (·.1)).map text := by
    rw [ofFields, List.map_map, List.map_map]
    rfl
  have nodup : (es.map (·.1)).Nodup := by
    rw [(perm.map _).nodup_iff, keys]
    exact distinct.map fun _ _ same => text.inj same
  rw [distinctKeys, decide_eq_true_eq]
  refine (List.pairwise_map.mp nodup).imp_of_mem fun {a b} first second different => ?_
  obtain ⟨⟨s, _⟩, _, rfl⟩ := List.mem_map.mp (perm.mem_iff.mp first)
  obtain ⟨⟨t, _⟩, _, rfl⟩ := List.mem_map.mp (perm.mem_iff.mp second)
  rw [sameKey_text, beq_eq_false_iff_ne]
  exact fun same => different (congrArg text same.symm)

theorem keysDistinct_of_perm {v : Value} {es : List (Value × Value)} {fields : List (String × Value)}
    (entries : v.entries? = some es) (perm : es.Perm (ofFields fields)) (distinct : (fields.map (·.1)).Nodup)
    (values : ∀ f ∈ fields, f.2.keysDistinct = true) : v.keysDistinct = true := by
  refine (keysDistinct_iff_of_entries? entries).mpr ⟨distinctKeys_of_perm perm distinct, fun e member => ?_⟩
  obtain ⟨⟨name, w⟩, field, rfl⟩ := List.mem_map.mp (perm.mem_iff.mp member)
  exact ⟨keysDistinct_text name, values (name, w) field⟩

end Value
end AccountInput
