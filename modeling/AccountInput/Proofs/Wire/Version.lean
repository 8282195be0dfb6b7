import AccountInput.Proofs.Outcome
import AccountInput.Proofs.Value.Keys
import AccountInput.Wire.Version

namespace AccountInput

/-- Settings that are loaded name a wire version. -/
theorem Config.isWireVersion_of_load {w : Surroundings} {given : Value} {overrides : Fields} {settings : Settings}
    (run : Config.load w given overrides = .ok settings) : Settings.isWireVersion settings.wireVersion = true := by
  obtain ⟨_, _, run⟩ := ok_of_bind run
  obtain ⟨_, _, run⟩ := ok_of_bind run
  obtain ⟨s, _, run⟩ := ok_of_bind run
  obtain ⟨_, validated, run⟩ := ok_of_bind run
  obtain ⟨_, _, same⟩ := ok_of_bind run
  cases same
  obtain ⟨level, _, checked⟩ := ok_of_bind validated
  split at checked
  · split at checked
    · split at checked
      · assumption
      · cases checked
    · cases checked
  · obtain ⟨_, _, refused⟩ := ok_of_bind checked
    cases refused

namespace Wire

/-- Surroundings without files. -/
def withoutFiles (env : Env) : Surroundings where
  env
  directory := "/"
  home := fun _ => none
  entry := fun _ => .missing
  codec := .standard

theorem schemaOf_version (s : Schema) : schemaOf s.version = .ok s := by
  cases s <;> simp only [schemaOf, Schema.version, Settings.isWireVersion, Value.equal_int] <;> rfl

theorem resolve_version (w : Surroundings) (s : Schema) : resolve w s.version = .ok s := by
  have named : resolve w s.version = schemaOf s.version := by cases s <;> rfl
  rw [named, schemaOf_version]

theorem toObject_version (w : Surroundings) (t : Timing) (s : Schema) :
    toObject w (.timing t) s.version = .ok (t.toObject s) := by
  rw [toObject, resolve_version]
  rfl

theorem ofObject_version (w : Surroundings) (v : Value) (s : Schema) :
    ofObject w v s.version = Timing.ofObject s v := by
  rw [ofObject, resolve_version]
  rfl

theorem resolve_of_isWireVersion {w : Surroundings} {version : Value}
    (valid : Settings.isWireVersion version = true) : ∃ s, resolve w version = .ok s ∧ schemaOf version = .ok s := by
  have named : resolve w version = schemaOf version := by
    cases version
    case null =>
      simp only [Settings.isWireVersion, Value.equal, Value.agrees, Value.leafEqual, Value.numeric?, Bool.or_self,
        Bool.false_eq_true] at valid
    all_goals rfl
  rw [named, schemaOf, if_pos valid]
  exact ⟨_, rfl, rfl⟩

/-- Without a version the settings are loaded, and name the schema. -/
theorem resolve_null_of_load {w : Surroundings} {settings : Settings}
    (run : Config.load w .null [] = .ok settings) :
    ∃ s, resolve w .null = .ok s ∧ resolve w settings.wireVersion = .ok s := by
  obtain ⟨s, explicit, named⟩ := resolve_of_isWireVersion (Config.isWireVersion_of_load run)
  refine ⟨s, ?_, explicit⟩
  rw [resolve, run]
  exact named

end Wire
end AccountInput
