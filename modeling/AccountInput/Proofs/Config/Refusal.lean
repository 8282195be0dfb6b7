import AccountInput.Proofs.Config.Command
import AccountInput.Proofs.Problem
import AccountInput.Proofs.Value.Wording

namespace AccountInput

namespace Value

theorem exists_str_text (s : String) : ∃ t, (text s).str? = some t := ⟨s, rfl⟩

theorem exists_str_textList (ts : List String) : ∃ t, (Wire.textList ts).str? = some t := by
  have none_held : allWordings (ts.map .text) = [] := by
    induction ts with
    | nil => rw [List.map_nil, allWordings]
    | cons t ts ih => simp only [List.map_cons, allWordings, wordings, ih, List.append_nil]
  have held : (Wire.textList ts).ownWordings = [] := none_held
  rw [← Option.isSome_iff_exists, isSome_str, isWorded, held, List.all_nil]

/-- A value of a file has both texts or neither. -/
theorem exists_repr_of_str {v : Value} (data : v.IsData) {t : String} (written : v.str? = some t) :
    ∃ u, v.repr? = some u := by
  have single : v.ownWordings = v.wordings := by cases data <;> rfl
  rw [← Option.isSome_iff_exists, isSome_repr, ← single, ← isWorded, ← isSome_str, written, Option.isSome_some]

end Value

namespace Config

/-- Why there is no table at a path, although a file may be there. -/
inductive UnreadableAt (w : Surroundings) (path : List String) : Prop
  | tooLong (missing : w.entry path = .missing)
      (long : pathLimit < (Path.text path).utf8ByteSize ∨ meetsLongName w [] path = true)
  | directory (here : w.entry path = .directory)
  | malformedToml {bs : List UInt8} (content : w.entry path = .file bs)
      (suffix : Path.suffix path = ".toml" ∨ Path.suffix path = ".tml") (malformed : ∀ v, readToml bs ≠ .ok v)
  | malformedJson {bs : List UInt8} (content : w.entry path = .file bs)
      (suffix : Path.suffix path = ".json") (malformed : ∀ v, readJson bs ≠ .ok v)

/-- Why the file of a run cannot be read. -/
inductive Unreadable (w : Surroundings) (argv : List String) : Prop
  | nul {name : String} (first : argv.head? = some name) (held : '\x00' ∈ name.toList)
  | noHome {name : String} (meant : fileName? w (argument argv) = some name) (nonempty : name ≠ "")
      (nowhere : Path.resolve? w.home w.directory name = none)
  | there {name : String} {path : List String} (meant : fileName? w (argument argv) = some name)
      (nonempty : name ≠ "") (resolved : Path.resolve? w.home w.directory name = some path)
      (unreadable : UnreadableAt w path)

theorem isWorded_of_text (message name shown : String) :
    (Problem.config message [(name, .text shown)]).IsWorded :=
  (Problem.isWorded_config_iff message name (.text shown)).mpr (Value.exists_str_text shown)

theorem not_isConfig_incidental (kind : FaultKind) (message : String) : ¬(Fault.incidental kind message).IsConfig := by
  rintro ⟨_, _, same, _⟩
  cases same

theorem readToml_fails {bs : List UInt8} {f : Fault} (failed : readToml bs = .error f) : ¬f.IsConfig := by
  rw [readToml] at failed
  split at failed
  · cases failed
    exact not_isConfig_incidental _ _
  · split at failed
    · cases failed
    all_goals
      cases failed
      exact not_isConfig_incidental _ _

theorem readJson_fails {bs : List UInt8} {f : Fault} (failed : readJson bs = .error f) : ¬f.IsConfig := by
  rw [readJson] at failed
  split at failed
  · cases failed
    exact not_isConfig_incidental _ _
  · split at failed
    · cases failed
    · cases failed
      exact not_isConfig_incidental _ _
    · cases failed
      exact not_isConfig_incidental _ _

/-- What a file that can be read lacks is worded. -/
theorem fileEntries_fails_worded {w : Surroundings} {path : List String} (readable : ¬UnreadableAt w path) :
    FailsOnly Fault.IsWorded (fileEntries w path) := by
  have shown (message : String) : (Problem.config message [("path", .text (Path.text path))]).IsWorded :=
    isWorded_of_text message "path" (Path.text path)
  rw [fileEntries]
  split
  · rename_i missing
    dsimp only
    split
    · rename_i long
      exact absurd (.tooLong missing ((Bool.or_eq_true _ _).mp long |>.imp_left of_decide_eq_true)) readable
    · exact failsOnly_error (shown _)
  · rename_i here
    exact absurd (.directory here) readable
  · rename_i bs content
    rw [readFile_eq]
    refine FailsOnly.bind ?_ fun v _ => ?_
    · rw [fileValue]
      split
      · rename_i suffix
        intro f failed
        refine absurd (.malformedToml content suffix fun v read => ?_) readable
        rw [failed] at read
        cases read
      · split
        · rename_i suffix
          intro f failed
          refine absurd (.malformedJson content suffix fun v read => ?_) readable
          rw [failed] at read
          cases read
        · exact failsOnly_error (shown _)
    · split
      · exact failsOnly_ok _
      · exact failsOnly_error (shown _)

theorem fileValue_of_malformed {w : Surroundings} {path : List String} {bs : List UInt8}
    (content : w.entry path = .file bs) (only : FailsOnly Fault.IsConfig (fileEntries w path)) :
    FailsOnly Fault.IsConfig (fileValue path bs) := by
  rw [fileEntries, content] at only
  dsimp only at only
  rw [readFile_eq] at only
  exact (failsOnly_bind_iff.mp only).1

/-- A file that cannot be read is no problem with the configuration. -/
theorem fileEntries_of_unreadable {w : Surroundings} {path : List String} (unreadable : UnreadableAt w path) :
    ¬FailsOnly Fault.IsConfig (fileEntries w path) := by
  intro only
  cases unreadable with
  | tooLong missing long =>
    have reason : (decide (pathLimit < (Path.text path).utf8ByteSize) || meetsLongName w [] path) = true :=
      (Bool.or_eq_true _ _).mpr (long.imp_left decide_eq_true)
    refine not_isConfig_incidental _ _ (only (.incidental .nameTooLong "") ?_)
    rw [fileEntries, missing]
    exact if_pos reason
  | directory here =>
    refine not_isConfig_incidental _ _ (only (.incidental .isDirectory "") ?_)
    rw [fileEntries, here]
  | @malformedToml bs content suffix malformed =>
    have only := fileValue_of_malformed content only
    rw [fileValue, if_pos suffix] at only
    cases read : readToml bs with
    | ok v => exact malformed v read
    | error f => exact readToml_fails read (only f read)
  | @malformedJson bs content suffix malformed =>
    have only := fileValue_of_malformed content only
    have other : ¬(Path.suffix path = ".toml" ∨ Path.suffix path = ".tml") := by
      rw [suffix]
      decide
    rw [fileValue, if_neg other, if_pos suffix] at only
    cases read : readJson bs with
    | ok v => exact malformed v read
    | error f => exact readJson_fails read (only f read)

/-- The path that the command looks up. -/
theorem filePath_argument {w : Surroundings} {argv : List String}
    (plain : ∀ name, argv.head? = some name → '\x00' ∉ name.toList) :
    filePath w (argument argv) = namedPath w ((fileName? w (argument argv)).getD "") := by
  cases argv with
  | nil => exact filePath_of_falsy nofun
  | cons name rest =>
    by_cases empty : name = ""
    · subst empty
      exact filePath_of_falsy nofun
    · have meant : fileName? w (argument (name :: rest)) = some name := if_pos (isTruthy_text empty)
      rw [meant, Option.getD_some]
      exact filePath_text empty (plain name rfl)

theorem some_of_getD {o : Option String} {name : String} (same : o.getD "" = name) (nonempty : name ≠ "") :
    o = some name := by
  cases o with
  | none => exact absurd same.symm nonempty
  | some t => exact congrArg some same

theorem fileLayer_fails_worded {w : Surroundings} {argv : List String} (readable : ¬Unreadable w argv)
    (s : Settings) : FailsOnly Fault.IsWorded (fileLayer w (argument argv) s) := by
  have plain : ∀ name, argv.head? = some name → '\x00' ∉ name.toList :=
    fun name first held => readable (.nul first held)
  refine FailsOnly.bind ?_ fun path found => ?_
  · rw [filePath_argument plain, namedPath]
    split
    · exact failsOnly_ok none
    · rename_i named
      have nonempty : (fileName? w (argument argv)).getD "" ≠ "" := fun same => named (String.isEmpty_iff.mpr same)
      split
      · exact failsOnly_ok _
      · rename_i nowhere
        exact absurd (.noHome (some_of_getD rfl nonempty) nonempty nowhere) readable
  · rcases filePath_eq_ok found with ⟨rfl, _⟩ | ⟨name, there, meant, nonempty, resolved, rfl⟩
    · exact failsOnly_ok s
    · have readableAt : ¬UnreadableAt w there :=
        fun unreadable => readable (.there meant nonempty resolved unreadable)
      refine FailsOnly.bind (fileEntries_fails_worded readableAt) fun es _ => ?_
      split
      · exact failsOnly_ok _
      · exact failsOnly_error ((Problem.isWorded_config_iff _ _ _).mpr (Value.exists_str_textList _))

/-- What keeps the file from being read is no problem with the configuration. -/
theorem fileLayer_of_unreadable {w : Surroundings} {argv : List String} (unreadable : Unreadable w argv)
    (s : Settings) : ¬FailsOnly Fault.IsConfig (fileLayer w (argument argv) s) := by
  intro only
  obtain ⟨path, layer⟩ := failsOnly_bind_iff.mp only
  by_cases plain : ∀ name, argv.head? = some name → '\x00' ∉ name.toList
  · rw [filePath_argument plain] at path layer
    cases unreadable with
    | nul first held => exact plain _ first held
    | noHome meant nonempty nowhere =>
      rw [meant, Option.getD_some] at path
      exact not_isConfig_incidental _ _ (path _ (namedPath_of_nowhere nonempty nowhere))
    | there meant nonempty resolved unreadable =>
      rw [meant, Option.getD_some] at layer
      have entries := layer _ (namedPath_of_resolved nonempty resolved)
      exact fileEntries_of_unreadable unreadable (failsOnly_bind_iff.mp entries).1
  · simp only [not_forall, not_not] at plain
    obtain ⟨name, first, held⟩ := plain
    obtain ⟨rest, rfl⟩ := List.head?_eq_some_iff.mp first
    exact not_isConfig_incidental _ _ (path _ (filePath_of_nul held))

theorem setByVariable_fails {P : Fault → Prop} {read : String → Except Fault Value}
    (only : ∀ t, FailsOnly P (read t)) (env : Env) (name : String) (stays : Value) :
    FailsOnly P (setByVariable env name stays read) := by
  rw [setByVariable]
  split
  · exact failsOnly_ok stays
  · exact only _

/-- What the environment says wrongly is worded. -/
theorem envLayer_fails_worded (w : Surroundings) (s : Settings) : FailsOnly Fault.IsWorded (envLayer w s) := by
  have level : ∀ t, FailsOnly Fault.IsWorded (.ok (.text (Text.strip t)) : Except Fault Value) :=
    fun _ => failsOnly_ok _
  have format : ∀ t, FailsOnly Fault.IsWorded (formatOfText t) := by
    intro t
    simp only [formatOfText]
    split
    · exact failsOnly_ok _
    · split
      · exact failsOnly_ok _
      · split
        · exact failsOnly_ok _
        · exact failsOnly_error (isWorded_of_text _ _ _)
  have version : ∀ t, FailsOnly Fault.IsWorded (versionOfText t) := by
    intro t
    rw [versionOfText]
    split
    · exact failsOnly_ok _
    · refine failsOnly_error ((Problem.isWorded_fail _ (Problem.plain_singleton rfl).shownAs true).mpr ?_)
      exact List.forall_mem_singleton.mpr (Value.exists_str_text _)
  rw [envLayer_eq]
  refine (setByVariable_fails level _ _ _).bind fun _ _ => ?_
  refine (setByVariable_fails format _ _ _).bind fun _ _ => ?_
  exact (setByVariable_fails version _ _ _).bind fun _ _ => failsOnly_ok _

/-- The layers of a run agree on settings, or what they lack is worded, unless the file cannot be read. -/
theorem layered_fails_worded {w : Surroundings} {argv : List String} (readable : ¬Unreadable w argv) :
    FailsOnly Fault.IsWorded (layered w (argument argv) []) :=
  (fileLayer_fails_worded readable _).bind fun s _ => (envLayer_fails_worded w s).bind fun _ _ => failsOnly_ok _

theorem layered_of_unreadable {w : Surroundings} {argv : List String} (unreadable : Unreadable w argv) :
    ¬FailsOnly Fault.IsConfig (layered w (argument argv) []) :=
  fun only => fileLayer_of_unreadable unreadable _ (failsOnly_bind_iff.mp only).1

/-- A setting of the wrong kind that is too long to be written. -/
inductive Unworded (s : Settings) : Prop
  | json {t : String} (shown : s.logLevel.str? = some t) (named : Text.capitals t ∈ Level.names.map (·.1))
      (refused : Settings.isTruthOrNull s.logJson = false) (unwritten : s.logJson.str? = none)
  | version {t : String} (shown : s.logLevel.str? = some t) (named : Text.capitals t ∈ Level.names.map (·.1))
      (json : Settings.isTruthOrNull s.logJson = true) (refused : Settings.isWireVersion s.wireVersion = false)
      (unwritten : s.wireVersion.str? = none)

theorem levelCapitals_of_unwritten {s : Settings} (unwritten : s.logLevel.str? = none) :
    s.levelCapitals = .error .tooManyDigits := by
  rw [Settings.levelCapitals, Value.str, unwritten]
  rfl

/-- The rules refuse the first setting that is against them. -/
theorem validate_failsOnly_iff {P : Fault → Prop} {s : Settings} {t shown : String}
    (written : s.logLevel.str? = some t) (quoted : s.logLevel.repr? = some shown) :
    FailsOnly P s.validate ↔
      (Text.capitals t ∉ Level.names.map (·.1) →
        P (Problem.config ("unknown log level " ++ shown) [(Settings.levelName, s.logLevel)])) ∧
      (Text.capitals t ∈ Level.names.map (·.1) → Settings.isTruthOrNull s.logJson = false →
        P (Problem.config "log_json must be a bool or null" [(Settings.jsonName, s.logJson)])) ∧
      (Text.capitals t ∈ Level.names.map (·.1) → Settings.isTruthOrNull s.logJson = true →
        Settings.isWireVersion s.wireVersion = false →
        P (Problem.config "wire_version must be one of (0, 1)" [(Settings.versionName, s.wireVersion)])) := by
  have capitals : s.levelCapitals = .ok (Text.capitals t) := levelCapitals_eq_ok_iff.mpr ⟨t, written, rfl⟩
  have repr : s.logLevel.repr = .ok shown := by rw [Value.repr, quoted]
  rw [Settings.validate, capitals]
  simp only [bind, Except.bind, List.contains_iff_mem, repr]
  -- in the order of the rules, for only the first that is broken is reported
  by_cases named : Text.capitals t ∈ Level.names.map (·.1)
  · cases json : Settings.isTruthOrNull s.logJson with
    | false =>
      simp only [named, not_true_eq_false, false_imp_iff, true_imp_iff, true_and, Bool.false_eq_true, if_true, if_false,
        and_true]
      exact failsOnly_error_iff
    | true =>
      cases version : Settings.isWireVersion s.wireVersion with
      | false =>
        simp only [named, not_true_eq_false, false_imp_iff, true_imp_iff, true_and, Bool.false_eq_true,
          Bool.true_eq_false, if_true, if_false]
        exact failsOnly_error_iff
      | true =>
        simp only [named, not_true_eq_false, false_imp_iff, true_imp_iff, Bool.true_eq_false, if_true, and_true,
          iff_true]
        exact failsOnly_ok ()
  · simp only [named, not_false_eq_true, false_imp_iff, true_imp_iff, if_false, and_true]
    exact failsOnly_error_iff

theorem validate_fails_config {s : Settings} {t : String} (data : s.HoldsData) (written : s.logLevel.str? = some t) :
    FailsOnly Fault.IsConfig s.validate := by
  obtain ⟨shown, quoted⟩ := Value.exists_repr_of_str data.logLevel written
  refine (validate_failsOnly_iff written quoted).mpr ⟨fun _ => ?_, fun _ _ => ?_, fun _ _ _ => ?_⟩
  · exact Problem.isConfig_config _ _ data.logLevel.exists_reported
  · exact Problem.isConfig_config _ _ data.logJson.exists_reported
  · exact Problem.isConfig_config _ _ data.wireVersion.exists_reported

/-- The rules word what they refuse, unless that is too long. -/
theorem validate_fails_worded_iff {s : Settings} {t : String} (data : s.HoldsData)
    (written : s.logLevel.str? = some t) : FailsOnly Fault.IsWorded s.validate ↔ ¬Unworded s := by
  obtain ⟨shown, quoted⟩ := Value.exists_repr_of_str data.logLevel written
  rw [validate_failsOnly_iff written quoted, Problem.isWorded_config_iff, Problem.isWorded_config_iff,
    Problem.isWorded_config_iff]
  constructor
  · rintro ⟨_, json, version⟩ unworded
    cases unworded with
    | json again named refused unwritten =>
      cases Option.some.inj (written.symm.trans again)
      obtain ⟨_, never⟩ := json named refused
      cases unwritten.symm.trans never
    | version again named plain refused unwritten =>
      cases Option.some.inj (written.symm.trans again)
      obtain ⟨_, never⟩ := version named plain refused
      cases unwritten.symm.trans never
  · intro worded
    refine ⟨fun _ => ⟨t, written⟩, fun named refused => ?_, fun named json refused => ?_⟩
    · exact Option.ne_none_iff_exists'.mp fun unwritten => worded (.json written named refused unwritten)
    · exact Option.ne_none_iff_exists'.mp fun unwritten => worded (.version written named json refused unwritten)

/-- A load fails as its layers do, or as the rules do. -/
theorem load_failsOnly_iff {P : Fault → Prop} {w : Surroundings} {given : Value} {overrides : Fields} :
    FailsOnly P (load w given overrides) ↔ FailsOnly P (layered w given overrides) ∧
      ∀ s, layered w given overrides = .ok s → FailsOnly P s.validate := by
  rw [load_eq]
  refine Iff.trans failsOnly_bind_iff (and_congr_right fun _ => forall₂_congr fun s _ => ?_)
  refine Iff.trans failsOnly_bind_iff (and_iff_left fun _ valid => ?_)
  obtain ⟨level, capitals, _⟩ := Settings.validate_eq_ok_iff.mp valid
  rw [capitals]
  exact failsOnly_ok _

/-- What keeps a load from telling what is wrong with the configuration. -/
inductive Breaks (w : Surroundings) (argv : List String) : Prop
  | file (unreadable : Unreadable w argv)
  | level {s : Settings} (laid : layered w (argument argv) [] = .ok s) (unwritten : s.logLevel.str? = none)

theorem load_fails_config_iff {w : Surroundings} {argv : List String} :
    FailsOnly Fault.IsConfig (load w (argument argv) []) ↔ ¬Breaks w argv := by
  rw [load_failsOnly_iff]
  constructor
  · rintro ⟨layers, rules⟩ breaks
    cases breaks with
    | file unreadable => exact layered_of_unreadable unreadable layers
    | level laid unwritten =>
      have failed := rules _ laid
      rw [Settings.validate, levelCapitals_of_unwritten unwritten] at failed
      exact not_isConfig_incidental _ _ (failed _ rfl)
  · intro whole
    refine ⟨(layered_fails_worded fun unreadable => whole (.file unreadable)).mono fun _ => Fault.IsWorded.isConfig,
      fun s laid => ?_⟩
    obtain ⟨t, written⟩ := Option.ne_none_iff_exists'.mp fun unwritten => whole (.level laid unwritten)
    exact validate_fails_config (holdsData_of_layered laid) written

theorem load_fails_worded_iff {w : Surroundings} {argv : List String} :
    FailsOnly Fault.IsWorded (load w (argument argv) []) ↔
      ¬Breaks w argv ∧ ∀ s, layered w (argument argv) [] = .ok s → ¬Unworded s := by
  constructor
  · intro only
    have whole := load_fails_config_iff.mp (only.mono fun _ => Fault.IsWorded.isConfig)
    refine ⟨whole, fun s laid => ?_⟩
    obtain ⟨t, written⟩ := Option.ne_none_iff_exists'.mp fun unwritten => whole (.level laid unwritten)
    exact (validate_fails_worded_iff (holdsData_of_layered laid) written).mp ((load_failsOnly_iff.mp only).2 s laid)
  · rintro ⟨whole, worded⟩
    refine load_failsOnly_iff.mpr ⟨layered_fails_worded fun unreadable => whole (.file unreadable), fun s laid => ?_⟩
    obtain ⟨t, written⟩ := Option.ne_none_iff_exists'.mp fun unwritten => whole (.level laid unwritten)
    exact (validate_fails_worded_iff (holdsData_of_layered laid) written).mpr (worded s laid)

/-- What a run of the command reports: the settings, or what is wrong with them. -/
inductive Reports (w : Surroundings) (given : Value) : Outcome → Prop
  | shown {s : Settings} {t e : String} (loaded : load w given [] = .ok s) (printed : printed? s = some t) :
      Reports w given ⟨0, t ++ "\n", e⟩
  | refused {p : Problem} {chained : Bool} {t : String} (failed : load w given [] = .error (.problem p chained))
      (kind : p.kind = .config) (text : p.text = .ok t) :
      Reports w given ⟨2, "", "config error: " ++ t ++ "\n"⟩

theorem exists_reports_iff {w : Surroundings} {given : Value} {terminal : Terminal} {clock : String} :
    (∃ o, run w given terminal clock = .ok o ∧ Reports w given o) ↔ FailsOnly Fault.IsWorded (load w given []) := by
  constructor
  · rintro ⟨o, _, reports⟩
    cases reports with
    | shown loaded printed =>
      rw [loaded]
      exact failsOnly_ok _
    | refused failed kind text =>
      rw [failed]
      exact failsOnly_error ⟨_, _, _, rfl, kind, text⟩
  · intro only
    cases loaded : load w given [] with
    | ok s =>
      obtain ⟨t, e, printed, ran⟩ := run_of_load loaded terminal clock
      exact ⟨_, ran, .shown loaded printed⟩
    | error f =>
      obtain ⟨p, chained, t, rfl, kind, text⟩ := only f loaded
      refine ⟨_, ?_, .refused loaded kind text⟩
      rw [run, loaded]
      dsimp only
      rw [if_pos kind, text]
      rfl

/-- A load tells what is wrong with the configuration unless it meets a file that it cannot read, or a level
that is too long to be written. A run of the command reports the settings or what is wrong with them, unless
that happens, or what is wrong is a setting that is too long to be written. -/
theorem load_and_run_refuse_iff (w : Surroundings) (argv : List String) (terminal : Terminal) (clock : String) :
    (FailsOnly Fault.IsConfig (load w (argument argv) []) ↔ ¬Breaks w argv) ∧
    ((∃ o, run w (argument argv) terminal clock = .ok o ∧ Reports w (argument argv) o) ↔
      ¬Breaks w argv ∧ ∀ s, layered w (argument argv) [] = .ok s → ¬Unworded s) :=
  ⟨load_fails_config_iff, exists_reports_iff.trans load_fails_worded_iff⟩

/-- Surroundings with a file that opens an object and ends there. -/
def cutFile : Surroundings := oneFile [] "c.json" (Utf8.ofString "\x7b")

/-- That file is refused, but not as a problem with the configuration. -/
theorem load_and_run_cutFile :
    load cutFile (argument ["c.json"]) [] = .error (.incidental .malformedJson "") ∧
    run cutFile (argument ["c.json"]) .no "" = .error (.incidental .malformedJson "") ∧
    ¬FailsOnly Fault.IsConfig (load cutFile (argument ["c.json"]) []) := by
  have meant : filePath cutFile (.text "c.json") = .ok (some ["c.json"]) :=
    filePath_oneFile _ _ (by decide) (by decide) (by decide +kernel)
  have entries : fileEntries cutFile ["c.json"] = .error (.incidental .malformedJson "") := by
    rw [fileEntries, cutFile, entry_oneFile]
    rfl
  have refused : load cutFile (argument ["c.json"]) [] = .error (.incidental .malformedJson "") := by
    rw [load, fileLayer, argument, meant]
    simp only [bind, Except.bind, entries]
  refine ⟨refused, by rw [run, refused], fun only => ?_⟩
  exact not_isConfig_incidental _ _ (only _ refused)

end Config
end AccountInput
