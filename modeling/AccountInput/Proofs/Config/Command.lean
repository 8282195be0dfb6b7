import AccountInput.Config.Command
import AccountInput.Proofs.Config.Layers
import AccountInput.Proofs.Json.Written
import AccountInput.Proofs.Number.Double

namespace AccountInput

namespace Settings

/-- The wire versions that a file or the environment can spell. -/
inductive IsVersion : Value → Prop
  | zero : IsVersion (.int 0)
  | one : IsVersion (.int 1)
  | floatZero (negative : Bool) : IsVersion (.float (.zero negative))
  | floatOne : IsVersion (.float .one)

theorem isVersion_of_isWireVersion {v : Value} (data : v.IsData) (valid : isWireVersion v = true) : IsVersion v := by
  cases data
  case bool b => cases valid
  case int n =>
    rw [isWireVersion_int, Bool.or_eq_true, beq_iff_eq, beq_iff_eq] at valid
    rcases valid with rfl | rfl
    · exact .zero
    · exact .one
  case float x =>
    simp only [isWireVersion, Value.equal_float, Bool.or_eq_true, beq_iff_eq] at valid
    rcases valid with none | unit
    · obtain ⟨negative, rfl⟩ := Double.eq_zero_of_orderRatio none
      exact .floatZero negative
    · rw [Double.eq_one_of_orderRatio unit]
      exact .floatOne
  case calendar s time =>
    have none : (Extended.standard s : Extended Value).numeric? = .none := by cases s <;> first | rfl | cases time
    simp only [isWireVersion, Value.equal, Value.agrees, Value.leafEqual, Value.numeric?, none, Bool.or_self,
      Bool.false_eq_true] at valid
  -- all else is no number, and equal to none
  all_goals
    simp only [isWireVersion, Value.equal, Value.agrees, Value.leafEqual, Value.numeric?, Bool.or_self,
      Bool.false_eq_true] at valid

theorem IsVersion.isWireVersion {v : Value} (version : IsVersion v) : isWireVersion v = true := by
  cases version with
  | zero => exact isWireVersion_int 0
  | one => exact isWireVersion_int 1
  | floatZero negative =>
    simp only [Settings.isWireVersion, Value.equal_float, Double.orderRatio_zero, beq_self_eq_true, Bool.true_or]
  | floatOne => simp only [Settings.isWireVersion, Value.equal_float, Double.orderRatio_one, beq_self_eq_true, Bool.or_true]

/-- Settings as a load returns them. -/
structure Loaded (s : Settings) : Prop where
  level : ∃ level ∈ Level.names.map (·.1), s.logLevel = .text level
  json : isTruthOrNull s.logJson = true
  version : IsVersion s.wireVersion

end Settings

namespace Config

/-- The path that the command takes: its first argument, if it has any. -/
def argument (argv : List String) : Value :=
  match argv with
  | [] => .null
  | name :: _ => .text name

theorem loaded_of_load {w : Surroundings} {given : Value} {s : Settings} (run : load w given [] = .ok s) : s.Loaded := by
  obtain ⟨t, level, laid, valid, capitals, rfl⟩ := load_eq_ok_iff.mp run
  have data := holdsData_of_layered laid
  obtain ⟨named, _, _⟩ := validate_of_capitals valid capitals
  obtain ⟨_, _, _, json, version⟩ := Settings.validate_eq_ok_iff.mp valid
  exact ⟨⟨level, named, rfl⟩, json, Settings.isVersion_of_isWireVersion data.wireVersion version⟩

theorem write_int_of_lt {n : Int} (digit : n.natAbs < 10) : Json.write? (.int n) = some (toString n) := by
  have few : 1 ≤ Decimal.digitLimit := by decide
  rw [Json.write?, Decimal.text?_of_lt few digit]

theorem lexes_quote_of_levelName {level : String} (named : level ∈ Level.names.map (·.1)) :
    Json.Lexes (Json.quote level).toList [.text level] := by
  simp only [Level.names, List.map_cons, List.map_nil, List.mem_cons, List.not_mem_nil, or_false] at named
  rcases named with rfl | rfl | rfl | rfl | rfl | rfl <;> exact fun _ => rfl

theorem exists_lexes_of_isTruthOrNull {v : Value} (plain : Settings.isTruthOrNull v = true) :
    ∃ t token, Json.write? v = some t ∧ Json.Lexes t.toList [token] ∧ token.Spells v := by
  cases v with
  | null => exact ⟨"null", .null, rfl, Json.lexes_null, fun _ _ => rfl⟩
  | bool b => exact ⟨Json.boolText b, .bool b, rfl, Json.lexes_boolText b, fun _ _ => rfl⟩
  | _ => cases plain

/-- A version is one token before the end of its line. -/
theorem exists_lexes_of_isVersion {v : Value} (version : Settings.IsVersion v) :
    ∃ t token, Json.write? v = some t ∧ Json.Lexes (t ++ "\n\x7d\n").toList [token, .closeObject] ∧ token.Spells v := by
  -- a number goes on over digits, so it is a token only together with what ends it
  cases version with
  | zero => exact ⟨"0", .int 0, write_int_of_lt (by decide), fun _ => rfl, fun _ _ => rfl⟩
  | one => exact ⟨"1", .int 1, write_int_of_lt (by decide), fun _ => rfl, fun _ _ => rfl⟩
  | floatZero negative =>
    cases negative with
    | false => exact ⟨"0.0", .float (.zero false), congrArg some (by decide), fun _ => rfl, fun _ _ => rfl⟩
    | true => exact ⟨"-0.0", .float (.zero true), congrArg some (by decide), fun _ => rfl, fun _ _ => rfl⟩
  | floatOne =>
    have unit : Double.ofDecimal false 10 (-1) = .one := by decide
    have lexes : Json.Lexes ("1.0" ++ "\n\x7d\n").toList [.float (Double.ofDecimal false 10 (-1)), .closeObject] :=
      fun _ => rfl
    rw [unit] at lexes
    exact ⟨"1.0", .float .one, congrArg some (by decide), lexes, fun _ _ => rfl⟩

theorem exists_printed {s : Settings} (loaded : s.Loaded) : ∃ t, printed? s = some t := by
  obtain ⟨level, _, shown⟩ := loaded.level
  obtain ⟨j, _, json, _⟩ := exists_lexes_of_isTruthOrNull loaded.json
  obtain ⟨v, _, version, _⟩ := exists_lexes_of_isVersion loaded.version
  have text : Json.write? s.logLevel = some (Json.quote level) := by rw [shown, Json.write?]
  rw [printed?, json, text, version]
  exact ⟨_, rfl⟩

theorem isReportable_of_isVersion {v : Value} (version : Settings.IsVersion v) :
    v.isRecord = false ∧ v.isReportable = true := by
  cases version <;> exact ⟨rfl, rfl⟩

theorem refusal?_loadedRecord (s : Settings) : Logging.refusal? (loadedRecord s) = none := by
  have few : 2 ≤ Decimal.digitLimit := by decide
  have level := Decimal.text?_of_lt (n := 10) few (by decide)
  rw [Logging.refusal?, show (loadedRecord s).level = 10 from rfl, level]
  rfl

/-- Nothing keeps a load from being logged. -/
theorem exists_loadedLines (w : Surroundings) {s : Settings} (loaded : s.Loaded) (terminal : Terminal)
    (clock : String) : ∃ t, loadedLines w s terminal clock = .ok t := by
  obtain ⟨l, j, v⟩ := s
  obtain ⟨⟨level, _, shown⟩, _, version⟩ := loaded
  dsimp only at shown version
  subst shown
  obtain ⟨plain, reportable⟩ := isReportable_of_isVersion version
  have logged := Value.logged_of_isReportable plain reportable
  have bound : LogContext.empty.bind [("wire_version", v)] = .ok ⟨[("wire_version", v)], []⟩ := by
    simp only [LogContext.bind, Fields.logged, List.mapM_cons, logged]
    rfl
  have configured : ∃ logging,
      (Logging.start.configureFrom w.env terminal (Settings.toValue ⟨.text level, j, v⟩)).1 = .ok logging := by
    have version : Logging.start.bindVersion (Settings.toValue ⟨.text level, j, v⟩) = .ok ⟨[("wire_version", v)], []⟩ :=
      bound
    rw [Logging.configureFrom, version]
    exact ⟨_, rfl⟩
  obtain ⟨logging, configured⟩ := configured
  have logged : ∃ lines, logging.log (loadedRecord ⟨.text level, j, v⟩) clock = .ok lines := by
    rw [Logging.log, refusal?_loadedRecord]
    split
    · exact ⟨_, rfl⟩
    · exact ⟨_, rfl⟩
  obtain ⟨lines, logged⟩ := logged
  rw [loadedLines, configured]
  exact ⟨_, congrArg (Except.map _) logged⟩

/-- The command shows settings that it can load. -/
theorem run_of_load {w : Surroundings} {given : Value} {s : Settings} (run : load w given [] = .ok s)
    (terminal : Terminal) (clock : String) :
    ∃ t e, printed? s = some t ∧ Config.run w given terminal clock = .ok ⟨0, t ++ "\n", e⟩ := by
  have loaded := loaded_of_load run
  obtain ⟨t, printed⟩ := exists_printed loaded
  obtain ⟨e, logged⟩ := exists_loadedLines w loaded terminal clock
  refine ⟨t, e, printed, ?_⟩
  rw [Config.run, run]
  dsimp only
  rw [logged, printed]
  rfl

end Config
end AccountInput
