import AccountInput.Proofs.Config.Command

namespace AccountInput
namespace Config

/-- The table that printed settings spell. -/
def printedTable (s : Settings) : List (Value × Value) :=
  Value.ofFields [(Settings.jsonName, s.logJson), (Settings.levelName, s.logLevel),
    (Settings.versionName, s.wireVersion)]

theorem read_printed {s : Settings} {t : String} (loaded : s.Loaded) (printed : printed? s = some t) :
    Json.read (t ++ "\n").toList = .ok (.dict (printedTable s)) := by
  obtain ⟨level, named, shown⟩ := loaded.level
  obtain ⟨j, jsonToken, json, jsonLexes, jsonSpells⟩ := exists_lexes_of_isTruthOrNull loaded.json
  obtain ⟨v, versionToken, version, versionLexes, versionSpells⟩ := exists_lexes_of_isVersion loaded.version
  have text : Json.write? s.logLevel = some (Json.quote level) := by rw [shown, Json.write?]
  have levelSpells : (Json.Token.text level).Spells s.logLevel := by
    rw [shown]
    exact fun _ _ => rfl
  have before : Json.Lexes "\x7b\n  \"log_json\": ".toList [.openObject, .text Settings.jsonName, .colon] := fun _ => rfl
  have between : Json.Lexes ",\n  \"log_level\": ".toList [.comma, .text Settings.levelName, .colon] := fun _ => rfl
  have last : Json.Lexes ",\n  \"wire_version\": ".toList [.comma, .text Settings.versionName, .colon] := fun _ => rfl
  have pieces := before.append (jsonLexes.append (between.append
    ((lexes_quote_of_levelName named).append (last.append versionLexes))))
  have whole : (t ++ "\n").toList = "\x7b\n  \"log_json\": ".toList ++ (j.toList ++ (",\n  \"log_level\": ".toList ++
      ((Json.quote level).toList ++ (",\n  \"wire_version\": ".toList ++ (v ++ "\n\x7d\n").toList)))) := by
    rw [printed?, json, text, version] at printed
    cases printed
    simp only [String.toList_append, List.append_assoc]
    rfl
  rw [whole]
  exact Json.read_members pieces jsonSpells levelSpells versionSpells (by decide)

theorem readJson_printed {s : Settings} {t : String} (loaded : s.Loaded) (printed : printed? s = some t) :
    readJson (Utf8.ofString (t ++ "\n")) = .ok (.dict (printedTable s)) := by
  have read := read_printed loaded printed
  obtain ⟨cs, front⟩ : ∃ cs, (t ++ "\n").toList = '\x7b' :: '\n' :: cs := by
    obtain ⟨j, _, rest⟩ := Option.bind_eq_some_iff.mp printed
    obtain ⟨l, _, rest⟩ := Option.bind_eq_some_iff.mp rest
    obtain ⟨v, _, same⟩ := Option.bind_eq_some_iff.mp rest
    cases same
    simp only [String.toList_append, List.append_assoc]
    exact ⟨_, rfl⟩
  have decoded : Json.fileText? (Utf8.ofString (t ++ "\n")) = some (t ++ "\n").toList := by
    rw [Utf8.ofString, front]
    exact Json.fileText?_encode (by decide) (by decide) cs
  rw [readJson, decoded]
  dsimp only
  rw [read]

/-- No variable of the settings is set. -/
def Unset (env : Env) : Prop := ∀ v ∈ env, ¬"LEDGER_".toList <+: v.1.toList

theorem get?_of_unset {env : Env} {name : String} (unset : Unset env) (own : "LEDGER_".toList <+: name.toList) :
    env.get? name = none := by
  have missing : env.find? (·.1 == name) = none := by
    refine List.find?_eq_none.mpr fun v member same => unset v member ?_
    rw [beq_iff_eq.mp same]
    exact own
  rw [Env.get?, missing]
  rfl

theorem envLayer_of_unset {w : Surroundings} (unset : Unset w.env) (s : Settings) : envLayer w s = .ok s := by
  have level := get?_of_unset unset (show "LEDGER_".toList <+: levelVariable.toList by decide)
  have format := get?_of_unset unset (show "LEDGER_".toList <+: formatVariable.toList by decide)
  have version := get?_of_unset unset (show "LEDGER_".toList <+: versionVariable.toList by decide)
  rw [envLayer_eq]
  simp only [setByVariable, level, format, version]
  rfl

/-- Printed settings are loaded as they were printed. -/
theorem load_printed {w : Surroundings} {given : Value} {path : List String} {s : Settings} {t : String}
    (loaded : s.Loaded) (printed : printed? s = some t) (unset : Unset w.env)
    (meant : filePath w given = .ok (some path)) (suffix : Path.suffix path = ".json")
    (stored : w.entry path = .file (Utf8.ofString (t ++ "\n"))) : load w given [] = .ok s := by
  have top : Value.get? (printedTable s) "ledger" = none := by
    rw [printedTable, Value.get?_ofFields]
    rfl
  have laid : withEntries .default (printedTable s) = s := rfl
  have fromFile : fileLayer w given .default = .ok s := by
    have layer := fileLayer_of_file meant stored (.json suffix (readJson_printed loaded printed)) (.flat top) rfl
      .default
    rwa [laid] at layer
  have layers : layered w given [] = .ok s :=
    bind_eq_ok_iff.mpr ⟨s, fromFile, bind_eq_ok_iff.mpr ⟨s, envLayer_of_unset unset s, rfl⟩⟩
  obtain ⟨level, named, shown⟩ := loaded.level
  have written : s.logLevel.str? = some level := by rw [shown, Value.str?]
  have capitals := Settings.capitals_of_levelName named
  have again := load_of_layered layers written (capitals.symm ▸ named) loaded.json loaded.version.isWireVersion
  rwa [capitals, ← shown] at again

theorem run_eq_ok_zero {w : Surroundings} {given : Value} {terminal : Terminal} {clock : String} {o : Outcome}
    (ran : run w given terminal clock = .ok o) (shown : o.code = 0) :
    ∃ s t, load w given [] = .ok s ∧ printed? s = some t ∧ o.output = t ++ "\n" := by
  cases loaded : load w given [] with
  | ok s =>
    obtain ⟨t, e, printed, same⟩ := run_of_load loaded terminal clock
    rw [ran] at same
    cases same
    exact ⟨s, t, rfl, printed, rfl⟩
  | error f =>
    rw [run, loaded] at ran
    split at ran
    · rename_i same
      cases same
    · split at ran
      · obtain ⟨t, _, same⟩ := ok_of_bind ran
        cases same
        cases shown
      · cases ran
    · cases ran

/-- What the command prints, stored as a file and loaded where no variable is set, is what was loaded, and is
printed again. -/
theorem run_reloads {w w' : Surroundings} {argv argv' : List String} {path : List String}
    {terminal terminal' : Terminal} {clock clock' : String} {o : Outcome}
    (ran : run w (argument argv) terminal clock = .ok o) (shown : o.code = 0) (unset : Unset w'.env)
    (meant : filePath w' (argument argv') = .ok (some path)) (suffix : Path.suffix path = ".json")
    (stored : w'.entry path = .file (Utf8.ofString o.output)) :
    ∃ s, load w (argument argv) [] = .ok s ∧ load w' (argument argv') [] = .ok s ∧
      ∃ o', run w' (argument argv') terminal' clock' = .ok o' ∧ o'.code = 0 ∧ o'.output = o.output := by
  obtain ⟨s, t, loaded, printed, output⟩ := run_eq_ok_zero ran shown
  rw [output] at stored
  have again := load_printed (loaded_of_load loaded) printed unset meant suffix stored
  obtain ⟨t', e, printed', ran'⟩ := run_of_load again terminal' clock'
  have same : t' = t := Option.some.inj (printed'.symm.trans printed)
  subst same
  exact ⟨s, loaded, again, _, ran', rfl, output.symm⟩

/-- Surroundings in which the level is in small letters between blanks, and the version a negative zero. -/
def oddSpellings : Surroundings :=
  oneFile [(levelVariable, " debug ")] "c.json" (Utf8.ofString "\x7b\"wire_version\":-0.0\x7d")

theorem load_oddSpellings : load oddSpellings (argument ["c.json"]) [] =
    .ok ⟨.text "DEBUG", .null, .float (.zero true)⟩ := by
  let own := Value.ofFields [(Settings.versionName, .float (.zero true))]
  have meant : filePath oddSpellings (argument ["c.json"]) = .ok (some ["c.json"]) :=
    filePath_oneFile _ _ (by decide) (by decide) (by decide +kernel)
  have spelled : Spells ["c.json"] (Utf8.ofString "\x7b\"wire_version\":-0.0\x7d") (.dict own) := .json rfl rfl
  have top : Value.get? own "ledger" = none := Value.get?_ofFields [(Settings.versionName, .float (.zero true))] "ledger"
  have fromFile : fileLayer oddSpellings (argument ["c.json"]) .default =
      .ok ⟨.text "INFO", .null, .float (.zero true)⟩ :=
    fileLayer_of_file meant (entry_oneFile ..) spelled (.flat top) rfl _
  have laid : layered oddSpellings (argument ["c.json"]) [] =
      .ok ⟨.text (Text.strip " debug "), .null, .float (.zero true)⟩ :=
    bind_eq_ok_iff.mpr ⟨_, fromFile, bind_eq_ok_iff.mpr ⟨_, rfl, rfl⟩⟩
  exact load_of_layered laid rfl (by decide) rfl (Settings.IsVersion.floatZero true).isWireVersion

theorem run_reloads_oddSpellings : ∃ o o', run oddSpellings (argument ["c.json"]) .no "" = .ok o ∧ o.code = 0 ∧
    run (oneFile [] "p.json" (Utf8.ofString o.output)) (argument ["p.json"]) .yes "" = .ok o' ∧ o'.code = 0 ∧
    o'.output = o.output := by
  obtain ⟨t, e, _, ran⟩ := run_of_load load_oddSpellings .no ""
  have unset : Unset (oneFile [] "p.json" (Utf8.ofString (t ++ "\n"))).env := nofun
  have meant : filePath (oneFile [] "p.json" (Utf8.ofString (t ++ "\n"))) (argument ["p.json"]) = .ok (some ["p.json"]) :=
    filePath_oneFile _ _ (by decide) (by decide) (by decide +kernel)
  obtain ⟨_, _, _, o', ran', code, output⟩ := run_reloads ran rfl unset meant (by decide) (entry_oneFile ..)
  exact ⟨_, o', ran, rfl, ran', code, output⟩

end Config
end AccountInput
