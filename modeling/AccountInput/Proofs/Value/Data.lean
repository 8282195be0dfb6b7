import AccountInput.Fields
import AccountInput.Proofs.Value.Keys
import AccountInput.Value.Coerce

namespace AccountInput

namespace Fields

theorem get?_cons (name other : String) (v : Value) (fs : Fields) :
    get? ((name, v) :: fs) other = if name = other then some v else get? fs other := by
  by_cases same : name = other
  · simp only [get?, List.find?_cons, same, beq_self_eq_true, if_true, Option.map_some]
  · have different : (name == other) = false := beq_eq_false_iff_ne.mpr same
    simp only [get?, List.find?_cons, different, if_neg same]

theorem get?_of_not_mem {fs : Fields} {name : String} (missing : name ∉ fs.map (·.1)) : fs.get? name = none := by
  induction fs with
  | nil => rfl
  | cons f rest ih =>
    obtain ⟨n, v⟩ := f
    obtain ⟨different, others⟩ := not_or.mp (mt List.mem_cons.mpr missing)
    rw [get?_cons, if_neg (Ne.symm different), ih others]

theorem mem_names_set {fs : Fields} {name other : String} {v : Value} :
    other ∈ (fs.set name v).map (·.1) ↔ other = name ∨ other ∈ fs.map (·.1) := by
  induction fs with
  | nil => simp only [set_nil, List.map_cons, List.map_nil, List.mem_singleton, List.not_mem_nil, or_false]
  | cons f rest ih =>
    obtain ⟨n, w⟩ := f
    rw [set_cons]
    split
    · rename_i same
      have same : n = name := beq_iff_eq.mp same
      simp only [List.map_cons, List.mem_cons, same, or_self_left]
    · simp only [List.map_cons, List.mem_cons, ih]
      exact or_left_comm

theorem nodup_names_set {fs : Fields} (distinct : (fs.map (·.1)).Nodup) (name : String) (v : Value) :
    ((fs.set name v).map (·.1)).Nodup := by
  induction fs with
  | nil => simp only [set_nil, List.map_cons, List.map_nil, List.nodup_singleton]
  | cons f rest ih =>
    obtain ⟨n, w⟩ := f
    obtain ⟨new, others⟩ := List.nodup_cons.mp distinct
    rw [set_cons]
    split
    · exact distinct
    · rename_i different
      refine List.nodup_cons.mpr ⟨fun again => ?_, ih others⟩
      rcases mem_names_set.mp again with same | old
      · exact different (beq_iff_eq.mpr same)
      · exact new old

theorem set_of_not_mem {fs : Fields} {name : String} (new : name ∉ fs.map (·.1)) (v : Value) :
    fs.set name v = fs ++ [(name, v)] := by
  induction fs with
  | nil => rfl
  | cons f rest ih =>
    obtain ⟨n, w⟩ := f
    obtain ⟨different, others⟩ := not_or.mp (mt List.mem_cons.mpr new)
    have other : ¬(n == name) = true := fun same => different (beq_iff_eq.mp same).symm
    rw [set_cons, if_neg other, ih others, List.cons_append]

end Fields

namespace Value

theorem insert_ofFields (fs : Fields) (name : String) (v : Value) :
    insert (ofFields fs) (.text name) v = ofFields (fs.set name v) := by
  induction fs with
  | nil => rfl
  | cons f rest ih =>
    obtain ⟨n, w⟩ := f
    have spelled : (name == n) = (n == name) := Bool.beq_comm
    have entries : ofFields ((n, w) :: rest) = (.text n, w) :: ofFields rest := rfl
    rw [entries, insert, sameKey_text, spelled, Fields.set_cons]
    split
    · rfl
    · rw [ih]
      rfl

/-- Entries under texts, of which no two are the same. -/
def NamedOnce (es : List (Value × Value)) : Prop :=
  ∃ fs : Fields, es = ofFields fs ∧ (fs.map (·.1)).Nodup

theorem NamedOnce.insert {es : List (Value × Value)} (named : NamedOnce es) (name : String) (v : Value) :
    NamedOnce (Value.insert es (.text name) v) := by
  obtain ⟨fs, rfl, distinct⟩ := named
  exact ⟨fs.set name v, insert_ofFields fs name v, Fields.nodup_names_set distinct name v⟩

/-- What a file can spell. -/
inductive IsData : Value → Prop
  | null : IsData .null
  | bool (b : Bool) : IsData (.bool b)
  | int (n : Int) : IsData (.int n)
  | float (x : Double) : IsData (.float x)
  | text (s : String) : IsData (.text s)
  | calendar {s : Standard} (time : s.isCalendar = true) : IsData (.standard s)
  | list {vs : List Value} : (∀ v ∈ vs, IsData v) → IsData (.list vs)
  | dict {es : List (Value × Value)} : NamedOnce es → (∀ e ∈ es, IsData e.2) → IsData (.dict es)

/-- The entries of a table that a file can spell. -/
structure IsTable (es : List (Value × Value)) : Prop where
  named : NamedOnce es
  data : ∀ e ∈ es, e.2.IsData

theorem IsTable.nil : IsTable [] := ⟨⟨[], rfl, List.nodup_nil⟩, nofun⟩

theorem IsTable.isData {es : List (Value × Value)} (table : IsTable es) : (dict es).IsData :=
  .dict table.named table.data

theorem IsData.table {es : List (Value × Value)} (data : (Value.dict es).IsData) : IsTable es := by
  cases data with
  | dict named all => exact ⟨named, all⟩

theorem IsData.items {vs : List Value} (data : (Value.list vs).IsData) : ∀ v ∈ vs, v.IsData := by
  cases data with
  | list all => exact all

theorem exists_str_of_isCalendar {s : Standard} (time : s.isCalendar = true) : ∃ t, s.str? = some t := by
  cases s with
  | moment microseconds offset => exact ⟨_, rfl⟩
  | date day => exact ⟨_, rfl⟩
  | time microseconds => exact ⟨_, rfl⟩
  | _ => cases time

/-- Problem data shows whatever a file can spell. -/
theorem IsData.exists_reported {v : Value} (data : v.IsData) : ∃ w, v.reported? = some w := by
  cases data with
  | calendar time =>
    obtain ⟨t, text⟩ := exists_str_of_isCalendar time
    exact ⟨Value.text t, congrArg (Option.map Value.text) text⟩
  | _ => exact ⟨_, rfl⟩

theorem IsTable.insert {es : List (Value × Value)} (table : IsTable es) (name : String) {v : Value}
    (data : v.IsData) : IsTable (Value.insert es (.text name) v) := by
  refine ⟨table.named.insert name v, ?_⟩
  -- what stands under the keys does not depend on how they are named
  have all := table.data
  clear table
  induction es with
  | nil =>
    intro e member
    cases List.mem_singleton.mp member
    exact data
  | cons f rest ih =>
    obtain ⟨k, w⟩ := f
    obtain ⟨first, others⟩ := List.forall_mem_cons.mp all
    rw [Value.insert]
    split
    · exact List.forall_mem_cons.mpr ⟨data, others⟩
    · exact List.forall_mem_cons.mpr ⟨first, ih others⟩

theorem IsTable.isData_of_get? {es : List (Value × Value)} (table : IsTable es) {name : String} {v : Value}
    (found : get? es name = some v) : v.IsData := by
  obtain ⟨e, first, rfl⟩ := Option.map_eq_some_iff.mp found
  exact table.data e (List.mem_of_find?_eq_some first)

theorem get?_ofFields (fs : Fields) (name : String) : get? (ofFields fs) name = fs.get? name := by
  induction fs with
  | nil => rfl
  | cons f rest ih =>
    obtain ⟨n, w⟩ := f
    have spelled : (name == n) = (n == name) := Bool.beq_comm
    simp only [get?, lookup, ofFields, Fields.get?, List.map_cons, List.find?_cons, sameKey_text, spelled] at ih ⊢
    split
    · rfl
    · exact ih

end Value
end AccountInput
