import AccountInput.Config.Settings
import AccountInput.Proofs.Outcome
import AccountInput.Proofs.Value.Data
import AccountInput.Proofs.Value.Equal

namespace AccountInput
namespace Settings

theorem get?_fields (s : Settings) (name : String) : s.fields.get? name =
    if levelName = name then some s.logLevel
    else if jsonName = name then some s.logJson
    else if versionName = name then some s.wireVersion else none := by
  simp only [fields, Fields.get?_cons]
  rfl

theorem mem_names_iff {name : String} :
    name ∈ names ↔ name = levelName ∨ name = jsonName ∨ name = versionName := by
  simp only [names, List.mem_cons, List.not_mem_nil, or_false]

theorem set?_level (s : Settings) (v : Value) : s.set? levelName v = some { s with logLevel := v } := rfl

theorem set?_json (s : Settings) (v : Value) : s.set? jsonName v = some { s with logJson := v } := rfl

theorem set?_version (s : Settings) (v : Value) : s.set? versionName v = some { s with wireVersion := v } := rfl

theorem set?_of_not_mem (s : Settings) {name : String} (unknown : name ∉ names) (v : Value) :
    s.set? name v = none := by
  simp only [mem_names_iff, not_or] at unknown
  obtain ⟨level, json, version⟩ := unknown
  simp only [set?, beq_iff_eq, level, json, version, if_false]

theorem exists_set? (s : Settings) {name : String} (known : name ∈ names) (v : Value) :
    ∃ s', s.set? name v = some s' := by
  rcases mem_names_iff.mp known with rfl | rfl | rfl
  · exact ⟨_, s.set?_level v⟩
  · exact ⟨_, s.set?_json v⟩
  · exact ⟨_, s.set?_version v⟩

/-- Setting one of the settings sets that one alone. -/
theorem get?_set? {s s' : Settings} {name : String} {v : Value} (changed : s.set? name v = some s')
    (other : String) : s'.fields.get? other = if name = other then some v else s.fields.get? other := by
  have known : name ∈ names := by
    by_contra unknown
    rw [s.set?_of_not_mem unknown v] at changed
    cases changed
  have json : levelName ≠ jsonName := by decide
  have version : levelName ≠ versionName := by decide
  have between : jsonName ≠ versionName := by decide
  rcases mem_names_iff.mp known with rfl | rfl | rfl
  · cases changed
    simp only [get?_fields]
    split <;> rfl
  · cases changed
    simp only [get?_fields]
    by_cases same : jsonName = other
    · subst same
      simp only [json, if_true, if_false]
    · simp only [same, if_false]
  · cases changed
    simp only [get?_fields]
    by_cases same : versionName = other
    · subst same
      simp only [version, between, if_true, if_false]
    · simp only [same, if_false]

theorem isWireVersion_int (n : Int) : isWireVersion (.int n) = (n == 0 || n == 1) := by
  simp only [isWireVersion, Value.equal_int]

/-- Settings that a file or the environment can spell. -/
structure HoldsData (s : Settings) : Prop where
  logLevel : s.logLevel.IsData
  logJson : s.logJson.IsData
  wireVersion : s.wireVersion.IsData

/-- What the rules ask of settings. -/
theorem validate_eq_ok_iff {s : Settings} : s.validate = .ok () ↔
    ∃ level, s.levelCapitals = .ok level ∧ level ∈ Level.names.map (·.1) ∧
      isTruthOrNull s.logJson = true ∧ isWireVersion s.wireVersion = true := by
  rw [validate, bind_eq_ok_iff]
  refine exists_congr fun level => and_congr_right fun _ => ?_
  split
  · rename_i named
    have member := List.contains_iff_mem.mp named
    split
    · rename_i json
      split
      · rename_i version
        exact ⟨fun _ => ⟨member, json, version⟩, fun _ => rfl⟩
      · rename_i version
        exact ⟨nofun, fun ⟨_, _, valid⟩ => absurd valid version⟩
    · rename_i json
      exact ⟨nofun, fun ⟨_, valid, _⟩ => absurd valid json⟩
  · rename_i unnamed
    have absent : level ∉ Level.names.map (·.1) := fun member => unnamed (List.contains_iff_mem.mpr member)
    refine ⟨fun run => ?_, fun ⟨member, _⟩ => absurd member absent⟩
    obtain ⟨_, _, refused⟩ := ok_of_bind run
    cases refused

theorem capitals_of_levelName {level : String} (named : level ∈ Level.names.map (·.1)) :
    Text.capitals level = level := by
  have all : ∀ l ∈ Level.names.map (·.1), Text.capitals l = l := by decide
  exact all level named

end Settings
end AccountInput
