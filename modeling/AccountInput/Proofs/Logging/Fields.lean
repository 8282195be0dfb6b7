import Mathlib.Logic.Function.Basic
import AccountInput.Logging.Line
import AccountInput.Proofs.Value.Data

namespace AccountInput

namespace Fields

variable {fs gs : Fields} {name : String} {v : Value}

theorem nodup_names_nil : (([] : Fields).map (·.1)).Nodup := List.nodup_nil

theorem get?_cons_eq_update (f : String × Value) (fs : Fields) :
    get? (f :: fs) = Function.update fs.get? f.1 (some f.2) := by
  funext name
  rw [get?_cons, Function.update_apply]
  exact if_congr eq_comm rfl rfl

theorem get?_set (fs : Fields) (name : String) (v : Value) :
    (fs.set name v).get? = Function.update fs.get? name (some v) := by
  induction fs with
  | nil => exact get?_cons_eq_update (name, v) []
  | cons f fs ih =>
    obtain ⟨n, w⟩ := f
    rw [set_cons, get?_cons_eq_update]
    split
    · rename_i same
      obtain rfl : n = name := beq_iff_eq.mp same
      rw [get?_cons_eq_update, Function.update_idem]
    · rename_i other
      have other : n ≠ name := fun same => other (beq_iff_eq.mpr same)
      rw [get?_cons_eq_update, ih, Function.update_comm other]

theorem get?_unset (fs : Fields) (name : String) :
    (fs.unset name).get? = Function.update fs.get? name none := by
  induction fs with
  | nil => exact (Function.update_eq_self name (get? [])).symm
  | cons f fs ih =>
    obtain ⟨n, w⟩ := f
    rw [unset, List.filter_cons, get?_cons_eq_update]
    split
    · rename_i kept
      rw [get?_cons_eq_update, ← unset, ih, Function.update_comm (bne_iff_ne.mp kept)]
    · rename_i dropped
      obtain rfl : n = name := not_not.mp fun other => dropped (bne_iff_ne.mpr other)
      rw [← unset, ih, Function.update_idem]

theorem get?_foldl_unset (names : List String) (fs : Fields) (name : String) :
    (names.foldl unset fs).get? name = if name ∈ names then none else fs.get? name := by
  induction names generalizing fs with
  | nil => rfl
  | cons n names ih =>
    rw [List.foldl_cons, ih, get?_unset, Function.update_apply]
    simp only [List.mem_cons]
    by_cases first : name = n <;> by_cases later : name ∈ names <;> simp [first, later]

theorem nodup_names_merge (distinct : (fs.map (·.1)).Nodup) (gs : Fields) : ((fs.merge gs).map (·.1)).Nodup := by
  induction gs generalizing fs with
  | nil => exact distinct
  | cons g gs ih => exact ih (nodup_names_set distinct g.1 g.2)

theorem nodup_names_foldl_unset (distinct : (fs.map (·.1)).Nodup) (names : List String) :
    ((names.foldl unset fs).map (·.1)).Nodup := by
  induction names generalizing fs with
  | nil => exact distinct
  | cons name names ih => exact ih ((List.filter_sublist.map _).nodup distinct)

theorem get?_append (fs gs : Fields) (name : String) : get? (fs ++ gs) name = (fs.get? name).or (gs.get? name) := by
  rw [get?, List.find?_append, Option.map_or]
  rfl

theorem contains_iff {name : String} : fs.contains name = true ↔ name ∈ fs.map (·.1) := by
  rw [contains, List.any_eq_true, List.mem_map]
  exact exists_congr fun f => and_congr_right fun _ => beq_iff_eq

theorem exists_get?_of_mem {name : String} (bound : name ∈ fs.map (·.1)) : ∃ v, fs.get? name = some v := by
  obtain ⟨f, member, same⟩ := List.mem_map.mp bound
  have found : (fs.find? (·.1 == name)).isSome = true :=
    List.find?_isSome.mpr ⟨f, member, beq_iff_eq.mpr same⟩
  obtain ⟨g, first⟩ := Option.isSome_iff_exists.mp found
  exact ⟨g.2, by rw [get?, first, Option.map_some]⟩

/-- Of bindings over others, the later ones win. -/
theorem get?_merge (distinct : (gs.map (·.1)).Nodup) (fs : Fields) (name : String) :
    (fs.merge gs).get? name = (gs.get? name).or (fs.get? name) := by
  induction gs generalizing fs with
  | nil => rfl
  | cons g gs ih =>
    obtain ⟨n, w⟩ := g
    obtain ⟨new, others⟩ := List.nodup_cons.mp distinct
    have later := ih others (fs.set n w)
    rw [get?_set, Function.update_apply] at later
    refine later.trans ?_
    rw [get?_cons]
    by_cases same : name = n
    · rw [if_pos same, if_pos same.symm, same, get?_of_not_mem new]
      rfl
    · rw [if_neg same, if_neg (Ne.symm same)]

theorem get?_setDefault (fs : Fields) (n : String) (v : Value) (name : String) :
    (fs.setDefault n v).get? name = (fs.get? name).or (get? [(n, v)] name) := by
  rw [setDefault]
  split
  · rename_i bound
    rw [get?_cons]
    split
    · rename_i same
      obtain ⟨w, found⟩ := exists_get?_of_mem (contains_iff.mp bound)
      rw [← same, found]
      rfl
    · exact Option.or_none.symm
  · exact get?_append fs _ name

theorem setDefault_eq_set {name : String} (new : ¬fs.contains name = true) (v : Value) :
    fs.setDefault name v = fs.set name v := by
  have missing : name ∉ fs.map (·.1) := fun bound => new (contains_iff.mpr bound)
  rw [setDefault, if_neg new, set_of_not_mem missing]

/-- Of defaults under bindings, the earlier ones win. -/
theorem get?_mergeDefaults (fs gs : Fields) (name : String) :
    (fs.mergeDefaults gs).get? name = (fs.get? name).or (gs.get? name) := by
  induction gs generalizing fs with
  | nil => exact Option.or_none.symm
  | cons g gs ih =>
    refine (ih (fs.setDefault g.1 g.2)).trans ?_
    rw [get?_setDefault, Option.or_assoc, ← get?_append]
    rfl

theorem mem_of_get? (found : fs.get? name = some v) : (name, v) ∈ fs := by
  obtain ⟨f, first, rfl⟩ := Option.map_eq_some_iff.mp found
  have key := List.find?_some first
  have same : f.1 = name := beq_iff_eq.mp key
  exact same ▸ List.mem_of_find?_eq_some first

theorem get?_of_mem (distinct : (fs.map (·.1)).Nodup) (member : (name, v) ∈ fs) : fs.get? name = some v := by
  obtain ⟨w, found⟩ := exists_get?_of_mem (List.mem_map_of_mem member)
  have same := List.inj_on_of_nodup_map distinct member (mem_of_get? found) rfl
  rw [found, (Prod.mk.inj same).2]

/-- Names that stand once each are looked up to go through all fields. -/
theorem forall_mem_iff_get? {P : Value → Prop} (distinct : (fs.map (·.1)).Nodup) :
    (∀ f ∈ fs, P f.2) ↔ ∀ name v, fs.get? name = some v → P v :=
  ⟨fun all _ _ found => all _ (mem_of_get? found), fun all f member => all f.1 f.2 (get?_of_mem distinct member)⟩

theorem nodup_names_setDefault (distinct : (fs.map (·.1)).Nodup) (name : String) (v : Value) :
    ((fs.setDefault name v).map (·.1)).Nodup := by
  by_cases bound : fs.contains name = true
  · rw [setDefault, if_pos bound]
    exact distinct
  · rw [setDefault_eq_set bound]
    exact nodup_names_set distinct name v

theorem nodup_names_mergeDefaults (distinct : (fs.map (·.1)).Nodup) (gs : Fields) :
    ((fs.mergeDefaults gs).map (·.1)).Nodup :=
  List.foldlRecOn (motive := fun fs : Fields => (fs.map (·.1)).Nodup) gs _ distinct fun _ distinct g _ =>
    nodup_names_setDefault distinct g.1 g.2

theorem isSome_get? (fs : Fields) (name : String) : (fs.get? name).isSome = fs.contains name := by
  rw [get?, Option.isSome_map, List.isSome_find?, contains]

end Fields

namespace LogRecord

variable {r : LogRecord} {context extra : Fields} {clock message name : String}

/-- What a record has of its own in a line. -/
def ownFields (r : LogRecord) (clock message : String) : Fields :=
  [("ts", .text clock), ("level", .text (Level.name r.level)), ("logger", .text r.logger), ("msg", .text message)]

theorem nodup_names_ownFields (r : LogRecord) (clock message : String) :
    ((r.ownFields clock message).map (·.1)).Nodup := by
  have names : (r.ownFields clock message).map (·.1) = ["ts", "level", "logger", "msg"] := rfl
  exact names ▸ by decide

theorem nodup_names_jsonFields (r : LogRecord) (context extra : Fields) (clock message : String) :
    ((r.jsonFields context extra clock message).map (·.1)).Nodup := by
  have all := Fields.nodup_names_mergeDefaults
    (Fields.nodup_names_merge (nodup_names_ownFields r clock message) context) extra
  unfold jsonFields
  cases r.failure with
  | none => exact all
  | some report => exact Fields.nodup_names_set all _ _

/-- What a JSON line gives under a name, where no report of a failure takes that name. -/
theorem get?_jsonFields (distinct : (context.map (·.1)).Nodup) (spared : name = "err" → r.failure = none) :
    (r.jsonFields context extra clock message).get? name =
      (context.get? name).or (((r.ownFields clock message).get? name).or (extra.get? name)) := by
  have merged : (((r.ownFields clock message).merge context).mergeDefaults extra).get? name =
      (context.get? name).or (((r.ownFields clock message).get? name).or (extra.get? name)) := by
    rw [Fields.get?_mergeDefaults, Fields.get?_merge distinct, Option.or_assoc]
  unfold jsonFields
  cases failed : r.failure with
  | none => exact merged
  | some report =>
    have other : name ≠ "err" := fun same => by rw [spared same] at failed; cases failed
    dsimp only
    rw [Fields.get?_set, Function.update_of_ne other]
    exact merged

theorem get?_jsonFields_err {report : String} (failed : r.failure = some report) :
    (r.jsonFields context extra clock message).get? "err" = some (.text (Text.stripEnd report)) := by
  unfold jsonFields
  rw [failed]
  dsimp only
  rw [Fields.get?_set, Function.update_self]

end LogRecord
end AccountInput
