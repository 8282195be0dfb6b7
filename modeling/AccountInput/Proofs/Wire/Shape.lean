import AccountInput.Proofs.Outcome
import AccountInput.Proofs.Value.Given
import AccountInput.Wire.Object

namespace AccountInput
namespace Wire

open Value (PlainName)

theorem plainName_version : PlainName versionName := fun c => by cases c <;> decide

theorem plainName_content : PlainName contentName := fun c => by cases c <;> decide

theorem plainName_untimed : PlainName untimedName := fun c => by cases c <;> decide

theorem plainName_timed : PlainName timedName := fun c => by cases c <;> decide

theorem plainName_of_field {name : String} (field : name ∈ Value.scheduleFields) : PlainName name := by
  simp only [Value.scheduleFields, List.mem_cons, List.not_mem_nil, or_false] at field
  intro c
  rcases field with rfl | rfl | rfl | rfl | rfl <;> cases c <;> decide

theorem integer_eq_ok_iff {v n : Value} {what : String} :
    integer v what = .ok n ↔ ∃ k, v = .int k ∧ n = .int k := by
  constructor
  · intro run
    cases v
    case int k =>
      cases run
      exact ⟨k, rfl, rfl⟩
    all_goals cases run
  · rintro ⟨k, rfl, rfl⟩
    rfl

/-- The fields of an envelope. -/
def envelopeFields (version : Int) (content : Value) : List (String × Value) :=
  [(versionName, .int version), (contentName, content)]

/-- A map of a version and a content, and of nothing else. -/
def IsEnvelope (v : Value) (version : Int) (content : Value) : Prop :=
  ∃ es, v.entries? = some es ∧ es.Perm (Value.ofFields (envelopeFields version content))

theorem nodup_envelopeFields (version : Int) (content : Value) :
    ((envelopeFields version content).map (·.1)).Nodup := by
  change [versionName, contentName].Nodup
  decide

theorem envelopeParts_eq_ok_iff {v version content : Value} {what : String} :
    envelopeParts v what = .ok (version, content) ↔ ∃ k, version = .int k ∧ IsEnvelope v k content := by
  unfold envelopeParts
  constructor
  · intro run
    split at run
    · cases run
    rename_i es entries
    split at run
    · rename_i n held atVersion atContent
      split at run
      · rename_i two
        obtain ⟨m, number, same⟩ := ok_of_bind run
        obtain ⟨k, rfl, rfl⟩ := integer_eq_ok_iff.mp number
        cases same
        refine ⟨k, rfl, es, entries, Value.perm_of_get? ?_ (nodup_envelopeFields k content) ?_ (Nat.le_of_eq two)⟩
        · intro f member
          rcases List.mem_pair.mp member with rfl | rfl
          · exact plainName_version
          · exact plainName_content
        · intro f member
          rcases List.mem_pair.mp member with rfl | rfl
          · exact atVersion
          · exact atContent
      · cases run
    · cases run
  · rintro ⟨k, rfl, es, entries, perm⟩
    have distinct := nodup_envelopeFields k content
    have atVersion := Value.get?_of_perm perm distinct (List.mem_cons_self ..)
    have atContent := Value.get?_of_perm perm distinct (List.mem_cons_of_mem _ (List.mem_cons_self ..))
    have two : es.length = 2 := perm.length_eq
    simp only [entries, atVersion, atContent, two, if_true]
    rfl

/-- The items of a variant: its name, and the record if there is one. -/
def variantItems : Option Value → List Value
  | none => [.text untimedName]
  | some body => [.text timedName, body]

theorem variantBody_eq_ok_iff {v : Value} (what : String) {body : Option Value} :
    variantBody v what = .ok body ↔ v.items? = some (variantItems body) := by
  unfold variantBody
  constructor
  · intro run
    split at run
    · cases run
    · cases run
    rename_i name rest items
    split at run
    · rename_i untimed
      rw [(Value.equal_text_iff plainName_untimed name).mp untimed] at items
      split at run
      · rename_i alone
        cases run
        rw [items, List.isEmpty_iff.mp alone]
        rfl
      · cases run
    split at run
    · rename_i timed
      rw [(Value.equal_text_iff plainName_timed name).mp timed] at items
      split at run
      · cases run
        exact items
      · cases run
    · cases run
  · intro items
    have own (name : String) (plain : PlainName name) : (Value.text name).equal (.text name) = true :=
      (Value.equal_text_iff plain _).mpr rfl
    have other : (Value.text timedName).equal (.text untimedName) = false := (Value.equal_text _ _).trans (by decide)
    cases body with
    | none => simp only [items, variantItems, own _ plainName_untimed, if_true, List.isEmpty_nil]
    | some body =>
      simp only [items, variantItems, other, own _ plainName_timed, if_true, if_false, Bool.false_eq_true]

/-- The version and the content of a value in the form of a schema. Without envelopes the version is
the one that all of them have. -/
def parts (s : Schema) (v : Value) (what : String) : Except Fault (Value × Value) :=
  match s with
  | .v0 => envelopeParts v what
  | .v1 => .ok (envelopeVersion, v)

/-- A record in the form of a schema. -/
def wrapped (s : Schema) (content version : Value) : Value :=
  match s with
  | .v0 => .envelope content version
  | .v1 => content

/-- A value that holds a content under a version. -/
def Unwraps (s : Schema) (v : Value) (version : Int) (content : Value) : Prop :=
  match s with
  | .v0 => IsEnvelope v version content
  | .v1 => version = 1 ∧ v = content

theorem parts_eq_ok_iff {s : Schema} {v version content : Value} (what : String) :
    parts s v what = .ok (version, content) ↔ ∃ k, version = .int k ∧ Unwraps s v k content := by
  cases s with
  | v0 => exact envelopeParts_eq_ok_iff
  | v1 =>
    constructor
    · intro run
      cases run
      exact ⟨1, rfl, rfl, rfl⟩
    · rintro ⟨k, rfl, rfl, rfl⟩
      rfl

/-- The record of a schedule inside that of timing. -/
def dataOfObject (s : Schema) (v : Value) : Except Fault Value := do
  let (version, map) ← parts s v (Value.recordName "TimedData" s)
  let es ← recordEntries map (Value.recordName "TimedData" s)
  let record ← recordOfEntries s es
  return wrapped s record version

theorem recordOfObject_eq (s : Schema) (v : Value) : recordOfObject s v = (do
    let (version, body) ← parts s v (Value.recordName "Timing" s)
    match ← variantBody body (Value.recordName "Timing" s) with
    | none => return wrapped s (.untimedRecord s) version
    | some data =>
      let record ← dataOfObject s data
      return wrapped s (.timedRecord s record) version) := by
  simp only [dataOfObject, bind_assoc, pure_bind]
  cases s <;> rfl

theorem scalar_eq (s : Schema) (es : List (Value × Value)) (name : String) : scalar s es name = (do
    let v ← field es name
    let (version, content) ← parts s v name
    let n ← integer content name
    return wrapped s n version) := by
  cases s with
  | v0 => rfl
  | v1 =>
    rw [scalar, scalarV1]
    cases field es name with
    | error f => rfl
    | ok v =>
      change integer v name = (integer v name >>= fun n => .ok n)
      cases integer v name <;> rfl

theorem field_eq_ok_iff {es : List (Value × Value)} {name : String} {v : Value} :
    field es name = .ok v ↔ Value.get? es name = some v := by
  unfold field
  cases Value.get? es name with
  | none => simp only [reduceCtorEq]
  | some w => simp only [Except.ok.injEq, Option.some.injEq]

/-- An integer in the form of a schema, and the loose record of it. -/
def IsScalar (s : Schema) (v record : Value) : Prop :=
  ∃ k n : Int, Unwraps s v k (.int n) ∧ record = wrapped s (.int n) (.int k)

theorem scalar_eq_ok_iff {s : Schema} {es : List (Value × Value)} {name : String} {record : Value} :
    scalar s es name = .ok record ↔ ∃ v, Value.get? es name = some v ∧ IsScalar s v record := by
  rw [scalar_eq]
  constructor
  · intro run
    obtain ⟨v, found, run⟩ := ok_of_bind run
    obtain ⟨⟨version, content⟩, unwrapped, run⟩ := ok_of_bind run
    obtain ⟨m, number, same⟩ := ok_of_bind run
    obtain ⟨k, rfl, holds⟩ := (parts_eq_ok_iff name).mp unwrapped
    obtain ⟨n, rfl, rfl⟩ := integer_eq_ok_iff.mp number
    cases same
    exact ⟨v, field_eq_ok_iff.mp found, k, n, holds, rfl⟩
  · rintro ⟨v, found, k, n, holds, rfl⟩
    have unwrapped := (parts_eq_ok_iff name).mpr ⟨k, rfl, holds⟩
    rw [field_eq_ok_iff.mpr found]
    simp only [bind, Except.bind, unwrapped]
    rfl

theorem recordEntries_eq_ok_iff {v : Value} (what : String) {es : List (Value × Value)} :
    recordEntries v what = .ok es ↔ v.entries? = some es ∧ missing es = [] ∧ extra es = [] := by
  unfold recordEntries
  constructor
  · intro run
    split at run
    · cases run
    rename_i fs entries
    obtain ⟨shown, reprs, run⟩ := ok_of_bind run
    split at run
    · rename_i complete
      cases run
      rw [Bool.and_eq_true, List.isEmpty_iff, List.isEmpty_iff] at complete
      rw [complete.2] at reprs
      exact ⟨entries, complete.1, List.forall₂_nil_right_iff.mp (mapM_eq_ok_iff.mp reprs)⟩
    · cases run
  · rintro ⟨entries, none, known⟩
    simp only [entries, none, known, List.mapM_nil]
    rfl

/-- The extra keys are those that are not the name of a field, as a text. -/
theorem mem_extra_iff {es : List (Value × Value)} {k : Value} :
    k ∈ extra es ↔ k ∈ es.map (·.1) ∧ k ∉ Value.scheduleFields.map Value.text := by
  refine List.mem_filter.trans (and_congr_right fun _ => ?_)
  rw [Bool.not_eq_true', List.any_eq_false, List.mem_map, not_exists]
  simp only [not_and]
  refine forall_congr' fun name => imp_congr_right fun field => not_congr ?_
  rw [Value.sameKey_text_iff (plainName_of_field field), eq_comm]

theorem extra_eq_nil_iff {es : List (Value × Value)} :
    extra es = [] ↔ ∀ k ∈ es.map (·.1), k ∈ Value.scheduleFields.map Value.text := by
  simp only [List.eq_nil_iff_forall_not_mem, mem_extra_iff, not_and, not_not]

/-- Entries that are fields with the names of a schedule, in any order. -/
def AreFields (es : List (Value × Value)) (fields : List (String × Value)) : Prop :=
  es.Perm (Value.ofFields fields) ∧ fields.map (·.1) = Value.scheduleFields

theorem nodup_scheduleFields : Value.scheduleFields.Nodup := by decide

theorem forall_scheduleFields {P : String → Prop} : (∀ name ∈ Value.scheduleFields, P name) ↔
    P "initial_minimum_balance" ∧ P "cliff_time" ∧ P "cliff_amount" ∧ P "vesting_period" ∧ P "vesting_increment" := by
  simp only [Value.scheduleFields, List.forall_mem_cons, List.not_mem_nil, IsEmpty.forall_iff, implies_true, and_true]

theorem AreFields.get? {es : List (Value × Value)} {fields : List (String × Value)} (are : AreFields es fields)
    {name : String} {v : Value} (member : (name, v) ∈ fields) : Value.get? es name = some v :=
  Value.get?_of_perm are.1 (are.2 ▸ nodup_scheduleFields) member

theorem missing_extra_of_areFields {es : List (Value × Value)} {fields : List (String × Value)}
    (are : AreFields es fields) : missing es = [] ∧ extra es = [] := by
  constructor
  · refine List.filter_eq_nil_iff.mpr fun name field => ?_
    rw [← are.2] at field
    obtain ⟨⟨_, v⟩, member, rfl⟩ := List.mem_map.mp field
    rw [are.get? member]
    exact Bool.false_ne_true
  · refine extra_eq_nil_iff.mpr fun k key => ?_
    obtain ⟨e, entry, rfl⟩ := List.mem_map.mp key
    obtain ⟨f, member, rfl⟩ := List.mem_map.mp (are.1.mem_iff.mp entry)
    exact List.mem_map_of_mem (are.2 ▸ List.mem_map_of_mem member)

theorem length_le_of_extra_eq_nil {es : List (Value × Value)} (known : extra es = [])
    (distinct : es.Pairwise fun a b => Value.sameKey b.1 a.1 = false) :
    es.length ≤ Value.scheduleFields.length := by
  have nodup : (es.map (·.1)).Nodup := by
    refine List.pairwise_map.mpr (distinct.imp_of_mem fun {a b} first second different same => ?_)
    obtain ⟨name, _, text⟩ := List.mem_map.mp (extra_eq_nil_iff.mp known _ (List.mem_map_of_mem first))
    rw [← same, ← text, Value.sameKey_text, beq_self_eq_true] at different
    cases different
  have subset : es.map (·.1) ⊆ Value.scheduleFields.map Value.text := extra_eq_nil_iff.mp known
  have bound := (List.subperm_of_subset nodup subset).length_le
  rwa [List.length_map, List.length_map] at bound

theorem areFields_of_missing_extra {es : List (Value × Value)} (complete : missing es = []) (known : extra es = [])
    (distinct : es.Pairwise fun a b => Value.sameKey b.1 a.1 = false) :
    ∃ a b c d e, AreFields es (Value.scheduleFields.zip [a, b, c, d, e]) := by
  let value (name : String) : Value := (Value.get? es name).getD .null
  let fields := Value.scheduleFields.map fun name => (name, value name)
  have names : fields.map (·.1) = Value.scheduleFields := by
    rw [List.map_map]
    exact List.map_id _
  have held (f : String × Value) (member : f ∈ fields) : f.1 ∈ Value.scheduleFields :=
    names ▸ List.mem_map_of_mem member
  -- Every field is found, and as no key is extra or doubled, there is no room for anything else.
  have perm : es.Perm (Value.ofFields fields) := by
    refine Value.perm_of_get? (fun f member => plainName_of_field (held f member))
      (names ▸ nodup_scheduleFields) (fun f member => ?_) ?_
    · obtain ⟨name, field, rfl⟩ := List.mem_map.mp member
      have found := List.filter_eq_nil_iff.mp complete name field
      cases lookup : Value.get? es name with
      | none => exact absurd (by rw [lookup]; rfl) found
      | some v =>
        change some v = some ((Value.get? es name).getD .null)
        rw [lookup]
        rfl
    · rw [List.length_map]
      exact length_le_of_extra_eq_nil known distinct
  exact ⟨value "initial_minimum_balance", value "cliff_time", value "cliff_amount", value "vesting_period",
    value "vesting_increment", perm, names⟩

end Wire
end AccountInput
