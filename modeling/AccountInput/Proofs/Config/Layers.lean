import AccountInput.Proofs.Config.File
import AccountInput.Proofs.Config.Settings

namespace AccountInput
namespace Config

/-- Settings laid over others: those that are not named stay. -/
theorem get?_withEntries {fs : Fields} (distinct : (fs.map (·.1)).Nodup) (known : ∀ f ∈ fs, f.1 ∈ Settings.names)
    (s : Settings) (name : String) :
    (withEntries s (Value.ofFields fs)).fields.get? name = (fs.get? name).or (s.fields.get? name) := by
  induction fs generalizing s with
  | nil => rfl
  | cons f rest ih =>
    obtain ⟨n, v⟩ := f
    obtain ⟨new, others⟩ := List.nodup_cons.mp distinct
    obtain ⟨first, later⟩ := List.forall_mem_cons.mp known
    obtain ⟨s', changed⟩ := s.exists_set? first v
    have step : withEntries s (Value.ofFields ((n, v) :: rest)) = withEntries s' (Value.ofFields rest) := by
      have one : (s.set? n v).getD s = s' := by rw [changed, Option.getD_some]
      rw [← one]
      rfl
    rw [step, ih others later, Settings.get?_set? changed, Fields.get?_cons]
    by_cases same : n = name
    · subst same
      simp only [Fields.get?_of_not_mem new, if_true, Option.none_or, Option.some_or]
    · simp only [if_neg same]

/-- The caller's settings are laid over the others, if all of them are settings. -/
theorem overrideLayer_eq_ok_iff {overrides : Fields} {s s' : Settings} :
    overrideLayer overrides s = .ok s' ↔
      (∀ o ∈ overrides, o.1 ∈ Settings.names) ∧ s' = withEntries s (Value.ofFields overrides) := by
  induction overrides generalizing s with
  | nil => exact ⟨fun run => ⟨nofun, (Except.ok.inj run).symm⟩, fun ⟨_, same⟩ => congrArg Except.ok same.symm⟩
  | cons o rest ih =>
    obtain ⟨name, v⟩ := o
    by_cases known : name ∈ Settings.names
    · obtain ⟨t, changed⟩ := s.exists_set? known v
      have step : overrideLayer ((name, v) :: rest) s = overrideLayer rest t := by
        rw [overrideLayer, List.foldlM_cons]
        simp only [changed]
        rfl
      have laid : withEntries s (Value.ofFields ((name, v) :: rest)) = withEntries t (Value.ofFields rest) := by
        have one : (s.set? name v).getD s = t := by rw [changed, Option.getD_some]
        rw [← one]
        rfl
      rw [step, ih, laid, List.forall_mem_cons]
      exact and_congr_left fun _ => ⟨fun others => ⟨known, others⟩, fun all => all.2⟩
    · have refused : ∃ f, overrideLayer ((name, v) :: rest) s = .error f := by
        rw [overrideLayer, List.foldlM_cons]
        simp only [s.set?_of_not_mem known]
        exact ⟨_, rfl⟩
      obtain ⟨f, refused⟩ := refused
      rw [refused]
      exact ⟨nofun, fun ⟨all, _⟩ => absurd (List.forall_mem_cons.mp all).1 known⟩

/-- The variable of the environment for a setting. -/
def variableOf (name : String) : String :=
  if name = Settings.levelName then levelVariable
  else if name = Settings.jsonName then formatVariable else versionVariable

/-- What the environment sets a setting to. -/
inductive EnvironmentSets (env : Env) : String → Value → Prop
  | level {t : String} (setTo : env.get? levelVariable = some t) :
      EnvironmentSets env Settings.levelName (.text (Text.strip t))
  | json {t : String} (setTo : env.get? formatVariable = some t) (word : Text.lower (Text.strip t) = "json") :
      EnvironmentSets env Settings.jsonName (.bool true)
  | text {t : String} (setTo : env.get? formatVariable = some t) (word : Text.lower (Text.strip t) = "text") :
      EnvironmentSets env Settings.jsonName (.bool false)
  | auto {t : String} (setTo : env.get? formatVariable = some t)
      (word : Text.lower (Text.strip t) = "" ∨ Text.lower (Text.strip t) = "auto") :
      EnvironmentSets env Settings.jsonName .null
  | version {t : String} {n : Int} (setTo : env.get? versionVariable = some t)
      (spelled : Numeral.literal? t.toList = some n) : EnvironmentSets env Settings.versionName (.int n)

theorem environmentSets_of_formatOfText {env : Env} {t : String} {v : Value}
    (setTo : env.get? formatVariable = some t) (run : formatOfText t = .ok v) :
    EnvironmentSets env Settings.jsonName v := by
  simp only [formatOfText, Bool.or_eq_true, beq_iff_eq] at run
  split at run
  · rename_i word
    cases run
    exact .json setTo word
  · split at run
    · rename_i word
      cases run
      exact .text setTo word
    · split at run
      · rename_i word
        cases run
        exact .auto setTo word
      · cases run

theorem environmentSets_of_versionOfText {env : Env} {t : String} {v : Value}
    (setTo : env.get? versionVariable = some t) (run : versionOfText t = .ok v) :
    EnvironmentSets env Settings.versionName v := by
  rw [versionOfText] at run
  split at run
  · rename_i spelled
    cases run
    exact .version setTo spelled
  · cases run

/-- What a variable makes of a value: the value stays where there is no such variable. -/
def setByVariable (env : Env) (name : String) (stays : Value) (read : String → Except Fault Value) :
    Except Fault Value :=
  match env.get? name with
  | none => .ok stays
  | some t => read t

theorem setByVariable_eq_ok {env : Env} {name : String} {stays v : Value} {read : String → Except Fault Value}
    (run : setByVariable env name stays read = .ok v) :
    (env.get? name = none ∧ v = stays) ∨ ∃ t, env.get? name = some t ∧ read t = .ok v := by
  rw [setByVariable] at run
  split at run
  · rename_i unset
    cases run
    exact .inl ⟨unset, rfl⟩
  · rename_i t setTo
    exact .inr ⟨t, setTo, run⟩

theorem envLayer_eq (w : Surroundings) (s : Settings) : envLayer w s =
    (setByVariable w.env levelVariable s.logLevel fun t => .ok (.text (Text.strip t))).bind fun level =>
      (setByVariable w.env formatVariable s.logJson formatOfText).bind fun json =>
        (setByVariable w.env versionVariable s.wireVersion versionOfText).bind fun version =>
          .ok ⟨level, json, version⟩ := by
  simp only [envLayer, setByVariable]
  generalize formatOfText = readFormat
  generalize versionOfText = readVersion
  cases w.env.get? levelVariable <;> cases w.env.get? formatVariable <;> cases w.env.get? versionVariable <;> rfl

/-- The environment sets a setting whose variable it holds, and leaves the others. -/
theorem envLayer_eq_ok {w : Surroundings} {s s' : Settings} (run : envLayer w s = .ok s') {name : String}
    (known : name ∈ Settings.names) :
    (w.env.get? (variableOf name) = none ∧ s'.fields.get? name = s.fields.get? name) ∨
      ∃ v, EnvironmentSets w.env name v ∧ s'.fields.get? name = some v := by
  rw [envLayer_eq] at run
  obtain ⟨l, level, run⟩ := ok_of_bind run
  obtain ⟨j, json, run⟩ := ok_of_bind run
  obtain ⟨v, version, run⟩ := ok_of_bind run
  cases run
  rcases Settings.mem_names_iff.mp known with rfl | rfl | rfl
  · rcases setByVariable_eq_ok level with ⟨unset, rfl⟩ | ⟨t, setTo, read⟩
    · exact .inl ⟨unset, rfl⟩
    · cases read
      exact .inr ⟨_, .level setTo, rfl⟩
  · rcases setByVariable_eq_ok json with ⟨unset, rfl⟩ | ⟨t, setTo, read⟩
    · exact .inl ⟨unset, rfl⟩
    · exact .inr ⟨j, environmentSets_of_formatOfText setTo read, rfl⟩
  · rcases setByVariable_eq_ok version with ⟨unset, rfl⟩ | ⟨t, setTo, read⟩
    · exact .inl ⟨unset, rfl⟩
    · exact .inr ⟨v, environmentSets_of_versionOfText setTo read, rfl⟩

/-- The value of a setting in the highest of the layers that sets it. -/
inductive Decides (w : Surroundings) (es : List (Value × Value)) (overrides : Fields) (name : String) : Value → Prop
  | override {v : Value} (given : overrides.get? name = some v) : Decides w es overrides name v
  | environment {v : Value} (noOverride : overrides.get? name = none) (given : EnvironmentSets w.env name v) :
      Decides w es overrides name v
  | file {v : Value} (noOverride : overrides.get? name = none) (noVariable : w.env.get? (variableOf name) = none)
      (given : Value.get? es name = some v) : Decides w es overrides name v
  | default {v : Value} (noOverride : overrides.get? name = none) (noVariable : w.env.get? (variableOf name) = none)
      (noEntry : Value.get? es name = none) (given : Settings.default.fields.get? name = some v) :
      Decides w es overrides name v

/-- The settings before they are checked, layer over layer. -/
def layered (w : Surroundings) (given : Value) (overrides : Fields) : Except Fault Settings := do
  let s ← fileLayer w given .default
  let s ← envLayer w s
  overrideLayer overrides s

theorem exists_default {name : String} (known : name ∈ Settings.names) :
    ∃ v, Settings.default.fields.get? name = some v := by
  rcases Settings.mem_names_iff.mp known with rfl | rfl | rfl
  · exact ⟨_, rfl⟩
  · exact ⟨_, rfl⟩
  · exact ⟨_, rfl⟩

/-- Where the layers agree on settings, each is that of the highest layer that sets it. -/
theorem decides_of_layered {w : Surroundings} {given : Value} {overrides : Fields} {s : Settings}
    (distinct : (overrides.map (·.1)).Nodup) (run : layered w given overrides = .ok s) :
    ∃ es, FileTable w given es ∧ (∀ e ∈ es, ∃ name ∈ Settings.names, e.1 = .text name) ∧
      (∀ o ∈ overrides, o.1 ∈ Settings.names) ∧
      ∀ name ∈ Settings.names, ∃ v, s.fields.get? name = some v ∧ Decides w es overrides name v := by
  obtain ⟨s₁, fromFile, run⟩ := ok_of_bind run
  obtain ⟨s₂, fromEnvironment, fromCaller⟩ := ok_of_bind run
  obtain ⟨es, table, own, rfl⟩ := fileLayer_eq_ok fromFile
  obtain ⟨known, rfl⟩ := overrideLayer_eq_ok_iff.mp fromCaller
  refine ⟨es, table, own, known, fun name member => ?_⟩
  rw [get?_withEntries distinct known]
  -- from the highest layer down: what a layer does not set is that of the layers below it
  cases override : overrides.get? name with
  | some v => exact ⟨v, rfl, .override override⟩
  | none =>
    rw [Option.none_or]
    rcases envLayer_eq_ok fromEnvironment member with ⟨unset, same⟩ | ⟨v, sets, value⟩
    · obtain ⟨fs, rfl, once⟩ := table.isTable.named
      have keys : ∀ f ∈ fs, f.1 ∈ Settings.names := by
        intro f present
        obtain ⟨n, listed, spelled⟩ := own (.text f.1, f.2) (List.mem_map.mpr ⟨f, present, rfl⟩)
        cases spelled
        exact listed
      rw [same, get?_withEntries once keys]
      cases entry : fs.get? name with
      | some v => exact ⟨v, rfl, .file override unset (by rw [Value.get?_ofFields, entry])⟩
      | none =>
        have absent : Value.get? (Value.ofFields fs) name = none := by rw [Value.get?_ofFields, entry]
        obtain ⟨v, value⟩ := exists_default member
        exact ⟨v, value, .default override unset absent value⟩
    · exact ⟨v, value, .environment override sets⟩

theorem Decides.isData {w : Surroundings} {given : Value} {es : List (Value × Value)} {name : String} {v : Value}
    (table : FileTable w given es) (decided : Decides w es [] name v) : v.IsData := by
  cases decided with
  | override given => cases given
  | environment noOverride given =>
    cases given with
    | level setTo => exact .text _
    | json setTo word => exact .bool true
    | text setTo word => exact .bool false
    | auto setTo word => exact .null
    | version setTo spelled => exact .int _
  | file noOverride noVariable given => exact table.isTable.isData_of_get? given
  | default noOverride noVariable noEntry given =>
    have usual : ∀ f ∈ Settings.default.fields, f.2.IsData :=
      List.forall_mem_cons.mpr ⟨.text _, List.forall_mem_cons.mpr ⟨.null, List.forall_mem_singleton.mpr (.int 1)⟩⟩
    obtain ⟨f, first, rfl⟩ := Option.map_eq_some_iff.mp given
    exact usual f (List.mem_of_find?_eq_some first)

/-- Without settings of the caller all of them are data. -/
theorem holdsData_of_layered {w : Surroundings} {given : Value} {s : Settings}
    (run : layered w given [] = .ok s) : s.HoldsData := by
  have distinct : (([] : Fields).map (·.1)).Nodup := List.nodup_nil
  obtain ⟨es, table, _, _, decided⟩ := decides_of_layered distinct run
  obtain ⟨_, level, levelDecided⟩ := decided _ (Settings.mem_names_iff.mpr (.inl rfl))
  obtain ⟨_, json, jsonDecided⟩ := decided _ (Settings.mem_names_iff.mpr (.inr (.inl rfl)))
  obtain ⟨_, version, versionDecided⟩ := decided _ (Settings.mem_names_iff.mpr (.inr (.inr rfl)))
  cases level
  cases json
  cases version
  exact ⟨levelDecided.isData table, jsonDecided.isData table, versionDecided.isData table⟩

theorem load_eq (w : Surroundings) (given : Value) (overrides : Fields) :
    load w given overrides = (layered w given overrides).bind fun s =>
      s.validate.bind fun _ => s.levelCapitals.bind fun level => .ok { s with logLevel := .text level } := by
  rw [load, layered]
  cases fileLayer w given .default with
  | error f => rfl
  | ok s =>
    simp only [bind, Except.bind]
    cases envLayer w s with
    | error f => rfl
    | ok s => rfl

theorem load_eq_ok_iff {w : Surroundings} {given : Value} {overrides : Fields} {s : Settings} :
    load w given overrides = .ok s ↔ ∃ t level, layered w given overrides = .ok t ∧ t.validate = .ok () ∧
      t.levelCapitals = .ok level ∧ s = { t with logLevel := .text level } := by
  rw [load_eq]
  constructor
  · intro run
    obtain ⟨t, laid, run⟩ := ok_of_bind run
    obtain ⟨_, valid, run⟩ := ok_of_bind run
    obtain ⟨level, capitals, same⟩ := ok_of_bind run
    cases same
    exact ⟨t, level, laid, valid, capitals, rfl⟩
  · rintro ⟨t, level, laid, valid, capitals, rfl⟩
    rw [laid, Except.bind, valid, Except.bind, capitals]
    rfl

theorem levelCapitals_eq_ok_iff {s : Settings} {level : String} :
    s.levelCapitals = .ok level ↔ ∃ t, s.logLevel.str? = some t ∧ Text.capitals t = level := by
  rw [Settings.levelCapitals, Value.str]
  cases s.logLevel.str? with
  | none =>
    constructor
    · intro run
      cases run
    · rintro ⟨_, same, _⟩
      cases same
  | some t =>
    constructor
    · intro run
      exact ⟨t, rfl, Except.ok.inj run⟩
    · rintro ⟨_, same, capitals⟩
      cases same
      exact congrArg Except.ok capitals

/-- Layers that keep the rules are loaded. -/
theorem load_of_layered {w : Surroundings} {given : Value} {overrides : Fields} {s : Settings} {t : String}
    (laid : layered w given overrides = .ok s) (shown : s.logLevel.str? = some t)
    (named : Text.capitals t ∈ Level.names.map (·.1)) (json : Settings.isTruthOrNull s.logJson = true)
    (version : Settings.isWireVersion s.wireVersion = true) :
    load w given overrides = .ok { s with logLevel := .text (Text.capitals t) } := by
  have capitals : s.levelCapitals = .ok (Text.capitals t) := levelCapitals_eq_ok_iff.mpr ⟨t, shown, rfl⟩
  have valid := Settings.validate_eq_ok_iff.mpr ⟨_, capitals, named, json, version⟩
  exact load_eq_ok_iff.mpr ⟨s, _, laid, valid, capitals, rfl⟩

/-- Settings with their level in capitals keep the rules, and stay as they are. -/
theorem validate_of_capitals {s : Settings} {level : String} (valid : s.validate = .ok ())
    (capitals : s.levelCapitals = .ok level) :
    level ∈ Level.names.map (·.1) ∧ ({ s with logLevel := .text level } : Settings).validate = .ok () ∧
      ({ s with logLevel := .text level } : Settings).levelCapitals = .ok level := by
  obtain ⟨other, shown, named, json, version⟩ := Settings.validate_eq_ok_iff.mp valid
  have same : other = level := Except.ok.inj (shown.symm.trans capitals)
  subst same
  have again : ({ s with logLevel := .text other } : Settings).levelCapitals = .ok other :=
    levelCapitals_eq_ok_iff.mpr ⟨other, rfl, Settings.capitals_of_levelName named⟩
  exact ⟨named, Settings.validate_eq_ok_iff.mpr ⟨other, again, named, json, version⟩, again⟩

/-- Each setting that is loaded is that of the highest layer that sets it: of the caller, the environment,
the file and the defaults. The settings keep the rules, and given back as the caller's they are loaded
again. -/
theorem load_by_layers {w : Surroundings} {given : Value} {overrides : Fields} {s : Settings}
    (distinct : (overrides.map (·.1)).Nodup) (run : load w given overrides = .ok s) :
    ∃ es, FileTable w given es ∧ (∀ e ∈ es, ∃ name ∈ Settings.names, e.1 = .text name) ∧
      (∀ o ∈ overrides, o.1 ∈ Settings.names) ∧
      (∃ v t, Decides w es overrides Settings.levelName v ∧ v.str? = some t ∧
        s.logLevel = .text (Text.capitals t)) ∧
      Decides w es overrides Settings.jsonName s.logJson ∧
      Decides w es overrides Settings.versionName s.wireVersion ∧
      s.validate = .ok () ∧ (∃ level ∈ Level.names.map (·.1), s.logLevel = .text level) ∧
      load w given s.fields = .ok s := by
  obtain ⟨t, level, laid, valid, capitals, rfl⟩ := load_eq_ok_iff.mp run
  obtain ⟨es, table, own, known, decided⟩ := decides_of_layered distinct laid
  obtain ⟨named, kept, same⟩ := validate_of_capitals valid capitals
  obtain ⟨shown, text, upper⟩ := levelCapitals_eq_ok_iff.mp capitals
  obtain ⟨l, level_eq, levelDecided⟩ := decided _ (Settings.mem_names_iff.mpr (.inl rfl))
  obtain ⟨j, json_eq, jsonDecided⟩ := decided _ (Settings.mem_names_iff.mpr (.inr (.inl rfl)))
  obtain ⟨v, version_eq, versionDecided⟩ := decided _ (Settings.mem_names_iff.mpr (.inr (.inr rfl)))
  cases level_eq
  cases json_eq
  cases version_eq
  refine ⟨es, table, own, known, ⟨_, shown, levelDecided, text, congrArg Value.text upper.symm⟩, jsonDecided,
    versionDecided, kept, ⟨level, named, rfl⟩, ?_⟩
  -- the lower layers agree on settings as before, and the caller's cover all of these
  obtain ⟨s₁, fromFile, rest⟩ := ok_of_bind laid
  obtain ⟨s₂, fromEnvironment, _⟩ := ok_of_bind rest
  have again : layered w given ({ t with logLevel := .text level } : Settings).fields =
      .ok { t with logLevel := .text level } :=
    bind_eq_ok_iff.mpr ⟨s₁, fromFile, bind_eq_ok_iff.mpr ⟨s₂, fromEnvironment, rfl⟩⟩
  exact load_eq_ok_iff.mpr ⟨_, level, again, kept, same, rfl⟩

/-- A file that sets whether lines are JSON, in a table of its own. -/
def nestedFile : List UInt8 := Utf8.ofString "\x7b\"ledger\":\x7b\"log_json\":false\x7d\x7d"

/-- Surroundings with that file, in which the environment sets the version. -/
def mixedLayers : Surroundings := oneFile [(versionVariable, " 0x0 ")] "c.json" nestedFile

theorem load_mixedLayers : load mixedLayers (.text "c.json") [(Settings.levelName, .text "debug")] =
    .ok ⟨.text "DEBUG", .bool false, .int 0⟩ := by
  have meant : filePath mixedLayers (.text "c.json") = .ok (some ["c.json"]) :=
    filePath_oneFile _ _ (by decide) (by decide) (by decide +kernel)
  let own := Value.ofFields [(Settings.jsonName, .bool false)]
  let top := Value.ofFields [("ledger", .dict own)]
  have spelled : Spells ["c.json"] nestedFile (.dict top) := .json rfl rfl
  have inner : Value.get? top "ledger" = some (.dict own) := Value.get?_ofFields [("ledger", .dict own)] "ledger"
  have settings : HoldsSettings (.dict top) own := .nested inner
  have fromFile : fileLayer mixedLayers (.text "c.json") .default = .ok ⟨.text "INFO", .bool false, .int 1⟩ :=
    fileLayer_of_file meant (entry_oneFile ..) spelled settings rfl _
  have laid : layered mixedLayers (.text "c.json") [(Settings.levelName, .text "debug")] =
      .ok ⟨.text "debug", .bool false, .int 0⟩ :=
    bind_eq_ok_iff.mpr ⟨_, fromFile, bind_eq_ok_iff.mpr ⟨⟨.text "INFO", .bool false, .int 0⟩, rfl, rfl⟩⟩
  exact load_of_layered laid rfl (by decide) rfl (Settings.isWireVersion_int 0)

/-- A load with a setting from each layer: the level is the caller's, the version that of the environment,
and whether lines are JSON that of the file. -/
theorem load_by_layers_mixed :
    ([(Settings.levelName, Value.text "debug")].map (·.1)).Nodup ∧
    load mixedLayers (.text "c.json") [(Settings.levelName, .text "debug")] =
      .ok ⟨.text "DEBUG", .bool false, .int 0⟩ ∧
    load mixedLayers (.text "c.json") (Settings.fields ⟨.text "DEBUG", .bool false, .int 0⟩) =
      .ok ⟨.text "DEBUG", .bool false, .int 0⟩ := by
  have distinct : ([(Settings.levelName, Value.text "debug")].map (·.1)).Nodup := List.nodup_singleton _
  obtain ⟨_, _, _, _, _, _, _, _, _, again⟩ := load_by_layers distinct load_mixedLayers
  exact ⟨distinct, load_mixedLayers, again⟩

end Config
end AccountInput
