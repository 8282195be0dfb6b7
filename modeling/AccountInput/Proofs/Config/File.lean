import AccountInput.Config.Load
import AccountInput.Proofs.Json.Data
import AccountInput.Proofs.Toml.Data

namespace AccountInput
namespace Config

/-- The text that names the file: the path that is given, unless it is empty, or that of the environment. -/
def fileName? (w : Surroundings) (given : Value) : Option String :=
  if given.isTruthy then given.str? else w.env.get? "LEDGER_CONFIG"

/-- The value that the bytes of a file spell, in the format that its suffix names. -/
inductive Spells (path : List String) (bs : List UInt8) (v : Value) : Prop
  | toml (suffix : Path.suffix path = ".toml" ∨ Path.suffix path = ".tml") (read : readToml bs = .ok v)
  | json (suffix : Path.suffix path = ".json") (read : readJson bs = .ok v)

/-- The settings of a file stand at its top, or in a table of their own there. -/
inductive HoldsSettings : Value → List (Value × Value) → Prop
  | flat {es : List (Value × Value)} (top : Value.get? es "ledger" = none) : HoldsSettings (.dict es) es
  | nested {es own : List (Value × Value)} (inner : Value.get? es "ledger" = some (.dict own)) :
      HoldsSettings (.dict es) own

/-- The settings that the file sets: none where no file is named. -/
inductive FileTable (w : Surroundings) (given : Value) : List (Value × Value) → Prop
  | unnamed (none : (fileName? w given).getD "" = "") : FileTable w given []
  | named {name : String} {path : List String} {bs : List UInt8} {v : Value} {es : List (Value × Value)}
      (meant : fileName? w given = some name) (nonempty : name ≠ "")
      (resolved : Path.resolve? w.home w.directory name = some path) (content : w.entry path = .file bs)
      (spelled : Spells path bs v) (settings : HoldsSettings v es) : FileTable w given es

theorem isData_of_readJson {bs : List UInt8} {v : Value} (run : readJson bs = .ok v) : v.IsData := by
  rw [readJson] at run
  split at run
  · cases run
  · split at run
    · rename_i read
      cases run
      exact Json.isData_of_read read
    · cases run
    · cases run

theorem isData_of_readToml {bs : List UInt8} {v : Value} (run : readToml bs = .ok v) : v.IsData := by
  rw [readToml] at run
  split at run
  · cases run
  · split at run
    · rename_i read
      cases run
      exact (Toml.isTable_of_read read).isData
    all_goals cases run

theorem Spells.isData {path : List String} {bs : List UInt8} {v : Value} (spelled : Spells path bs v) : v.IsData := by
  cases spelled with
  | toml suffix read => exact isData_of_readToml read
  | json suffix read => exact isData_of_readJson read

theorem holdsSettings_iff {v : Value} {es : List (Value × Value)} : HoldsSettings v es ↔ section? v = some es := by
  constructor
  · intro holds
    cases holds with
    | flat top => simp only [section?, top]
    | nested inner => simp only [section?, inner]
  · intro found
    unfold section? at found
    split at found
    · split at found
      · rename_i top
        cases found
        exact .flat top
      · rename_i inner
        cases found
        exact .nested inner
      · cases found
    · cases found

theorem HoldsSettings.isTable {v : Value} {es : List (Value × Value)} (holds : HoldsSettings v es) (data : v.IsData) :
    Value.IsTable es := by
  cases holds with
  | flat top => exact data.table
  | nested inner => exact (data.table.isData_of_get? inner).table

theorem FileTable.isTable {w : Surroundings} {given : Value} {es : List (Value × Value)}
    (table : FileTable w given es) : Value.IsTable es := by
  cases table with
  | unnamed none => exact .nil
  | named meant nonempty resolved content spelled settings => exact settings.isTable spelled.isData

/-- The value of a file, by the suffix of its path. -/
def fileValue (path : List String) (bs : List UInt8) : Except Fault Value :=
  if Path.suffix path = ".toml" ∨ Path.suffix path = ".tml" then readToml bs
  else if Path.suffix path = ".json" then readJson bs
  else
    .error (Problem.config ("unsupported config format: " ++ Path.suffix path ++ "; use .toml or .json")
      [("path", .text (Path.text path))])

theorem readFile_eq (path : List String) (bs : List UInt8) : readFile path bs = (fileValue path bs).bind fun v =>
    match section? v with
    | some es => .ok es
    | none =>
      .error (Problem.config "config file must contain a table/object" [("path", .text (Path.text path))]) := by
  simp only [readFile, fileValue, Bool.or_eq_true, beq_iff_eq]
  split
  · rfl
  · split <;> rfl

theorem fileValue_eq_ok_iff {path : List String} {bs : List UInt8} {v : Value} :
    fileValue path bs = .ok v ↔ Spells path bs v := by
  constructor
  · intro run
    unfold fileValue at run
    split at run
    · rename_i suffix
      exact .toml suffix run
    · split at run
      · rename_i suffix
        exact .json suffix run
      · cases run
  · intro spelled
    cases spelled with
    | toml suffix read => rw [fileValue, if_pos suffix, read]
    | json suffix read =>
      have other : ¬(Path.suffix path = ".toml" ∨ Path.suffix path = ".tml") := by
        rw [suffix]
        decide
      rw [fileValue, if_neg other, if_pos suffix, read]

theorem readFile_eq_ok_iff {path : List String} {bs : List UInt8} {es : List (Value × Value)} :
    readFile path bs = .ok es ↔ ∃ v, Spells path bs v ∧ HoldsSettings v es := by
  rw [readFile_eq]
  refine Iff.trans bind_eq_ok_iff (exists_congr fun v => and_congr fileValue_eq_ok_iff ?_)
  rw [holdsSettings_iff]
  cases section? v with
  | none => exact ⟨nofun, nofun⟩
  | some own =>
    constructor
    · intro run
      cases run
      rfl
    · intro same
      cases same
      rfl

theorem fileEntries_eq_ok_iff {w : Surroundings} {path : List String} {es : List (Value × Value)} :
    fileEntries w path = .ok es ↔ ∃ bs v, w.entry path = .file bs ∧ Spells path bs v ∧ HoldsSettings v es := by
  rw [fileEntries]
  cases content : w.entry path with
  | missing =>
    refine ⟨fun run => ?_, nofun⟩
    dsimp only at run
    split at run <;> cases run
  | directory => exact ⟨nofun, nofun⟩
  | file bs =>
    refine Iff.trans readFile_eq_ok_iff ⟨fun ⟨v, held⟩ => ⟨bs, v, rfl, held⟩, ?_⟩
    rintro ⟨_, v, same, held⟩
    cases same
    exact ⟨v, held⟩

/-- The path that a name leads to; the empty name leads nowhere. -/
def namedPath (w : Surroundings) (name : String) : Except Fault (Option (List String)) :=
  if name.isEmpty then .ok none
  else
    match Path.resolve? w.home w.directory name with
    | some path => .ok (some path)
    | none => .error (.incidental .noHome "")

theorem namedPath_eq_ok {w : Surroundings} {name : String} {path : Option (List String)}
    (run : namedPath w name = .ok path) : (path = none ∧ name = "") ∨
      ∃ found, name ≠ "" ∧ Path.resolve? w.home w.directory name = some found ∧ path = some found := by
  rw [namedPath] at run
  split at run
  · rename_i empty
    cases run
    exact .inl ⟨rfl, String.isEmpty_iff.mp empty⟩
  · rename_i nonempty
    have nonempty : name ≠ "" := fun same => nonempty (String.isEmpty_iff.mpr same)
    split at run
    · rename_i found resolved
      cases run
      exact .inr ⟨found, nonempty, resolved, rfl⟩
    · cases run

theorem namedPath_of_resolved {w : Surroundings} {name : String} {path : List String} (nonempty : name ≠ "")
    (resolved : Path.resolve? w.home w.directory name = some path) : namedPath w name = .ok (some path) := by
  rw [namedPath, if_neg (mt String.isEmpty_iff.mp nonempty), resolved]

theorem namedPath_of_nowhere {w : Surroundings} {name : String} (nonempty : name ≠ "")
    (nowhere : Path.resolve? w.home w.directory name = none) :
    namedPath w name = .error (.incidental .noHome "") := by
  rw [namedPath, if_neg (mt String.isEmpty_iff.mp nonempty), nowhere]

theorem filePath_of_falsy {w : Surroundings} {given : Value} (falsy : ¬given.isTruthy = true) :
    filePath w given = namedPath w ((w.env.get? "LEDGER_CONFIG").getD "") := if_neg falsy

theorem filePath_of_truthy {w : Surroundings} {given : Value} (truthy : given.isTruthy = true) :
    filePath w given =
      match given.text? with
      | none => .error .wrongType
      | some t => if t.toList.contains '\x00' then .error .badValue else given.str.bind (namedPath w) :=
  if_pos truthy

theorem filePath_eq_ok {w : Surroundings} {given : Value} {path : Option (List String)}
    (run : filePath w given = .ok path) : (path = none ∧ (fileName? w given).getD "" = "") ∨
      ∃ name found, fileName? w given = some name ∧ name ≠ "" ∧
        Path.resolve? w.home w.directory name = some found ∧ path = some found := by
  by_cases truthy : given.isTruthy = true
  · rw [filePath_of_truthy truthy] at run
    split at run
    · cases run
    · split at run
      · cases run
      · obtain ⟨name, shown, run⟩ := ok_of_bind run
        have meant : fileName? w given = some name := by
          rw [fileName?, if_pos truthy]
          rw [Value.str] at shown
          split at shown
          · cases shown
            assumption
          · cases shown
        rcases namedPath_eq_ok run with ⟨none, empty⟩ | ⟨found, nonempty, resolved, same⟩
        · exact .inl ⟨none, by rw [meant, empty]; rfl⟩
        · exact .inr ⟨name, found, meant, nonempty, resolved, same⟩
  · rw [filePath_of_falsy truthy] at run
    have meant : fileName? w given = w.env.get? "LEDGER_CONFIG" := if_neg truthy
    rcases namedPath_eq_ok run with ⟨none, empty⟩ | ⟨found, nonempty, resolved, same⟩
    · exact .inl ⟨none, by rw [meant, empty]⟩
    · cases setTo : w.env.get? "LEDGER_CONFIG" with
      | none =>
        rw [setTo] at nonempty
        exact absurd rfl nonempty
      | some name =>
        rw [setTo] at nonempty resolved
        exact .inr ⟨name, found, by rw [meant, setTo], nonempty, resolved, same⟩

theorem isTruthy_text {name : String} (nonempty : name ≠ "") : (Value.text name).isTruthy = true := by
  rw [Value.isTruthy, Bool.eq_false_iff.mpr (mt String.isEmpty_iff.mp nonempty), Bool.not_false]

theorem filePath_text {w : Surroundings} {name : String} (nonempty : name ≠ "") (plain : '\x00' ∉ name.toList) :
    filePath w (.text name) = namedPath w name := by
  have clean : name.toList.contains '\x00' = false := Bool.eq_false_iff.mpr (mt List.contains_iff_mem.mp plain)
  rw [filePath_of_truthy (isTruthy_text nonempty)]
  simp only [Value.text?, clean, Bool.false_eq_true, if_false]
  rfl

theorem filePath_of_nul {w : Surroundings} {name : String} (held : '\x00' ∈ name.toList) :
    filePath w (.text name) = .error .badValue := by
  have nonempty : name ≠ "" := by
    rintro rfl
    cases held
  rw [filePath_of_truthy (isTruthy_text nonempty)]
  simp only [Value.text?, List.contains_iff_mem.mpr held, if_true]

theorem forall_known_of_unknownKeys {es : List (Value × Value)} (named : Value.NamedOnce es)
    (known : unknownKeys es = []) : ∀ e ∈ es, ∃ name ∈ Settings.names, e.1 = .text name := by
  obtain ⟨fs, rfl, _⟩ := named
  intro e member
  obtain ⟨f, present, rfl⟩ := List.mem_map.mp member
  refine ⟨f.1, ?_, rfl⟩
  have listed := List.filterMap_eq_nil_iff.mp known _ member
  dsimp only [Value.text?] at listed
  split at listed
  · rename_i contained
    exact List.contains_iff_mem.mp contained
  · cases listed

/-- The layer of the file lays the entries of its table over the settings. All of them are settings. -/
theorem fileLayer_eq_ok {w : Surroundings} {given : Value} {s s' : Settings}
    (run : fileLayer w given s = .ok s') : ∃ es, FileTable w given es ∧
      (∀ e ∈ es, ∃ name ∈ Settings.names, e.1 = .text name) ∧ s' = withEntries s es := by
  obtain ⟨path, looked, run⟩ := ok_of_bind run
  rcases filePath_eq_ok looked with ⟨rfl, unnamed⟩ | ⟨name, found, meant, nonempty, resolved, rfl⟩
  · cases run
    exact ⟨[], .unnamed unnamed, nofun, rfl⟩
  · obtain ⟨es, read, run⟩ := ok_of_bind run
    obtain ⟨bs, v, content, spelled, settings⟩ := fileEntries_eq_ok_iff.mp read
    have table : FileTable w given es := .named meant nonempty resolved content spelled settings
    split at run
    · rename_i known
      cases run
      exact ⟨es, table, forall_known_of_unknownKeys table.isTable.named known, rfl⟩
    · cases run

theorem fileLayer_of_file {w : Surroundings} {given : Value} {path : List String} {bs : List UInt8} {v : Value}
    {es : List (Value × Value)} (meant : filePath w given = .ok (some path)) (content : w.entry path = .file bs)
    (spelled : Spells path bs v) (settings : HoldsSettings v es) (known : unknownKeys es = []) (s : Settings) :
    fileLayer w given s = .ok (withEntries s es) := by
  have read := fileEntries_eq_ok_iff.mpr ⟨bs, v, content, spelled, settings⟩
  rw [fileLayer, meant]
  simp only [bind, Except.bind, read, known]
  rfl

/-- Surroundings with one file, in the root directory. -/
def oneFile (env : Env) (name : String) (bs : List UInt8) : Surroundings where
  env
  directory := "/"
  home := fun _ => none
  entry := fun path => if path = [name] then .file bs else .missing

theorem entry_oneFile (env : Env) (name : String) (bs : List UInt8) : (oneFile env name bs).entry [name] = .file bs :=
  if_pos rfl

theorem filePath_oneFile (env : Env) (bs : List UInt8) {name : String} (nonempty : name ≠ "")
    (plain : '\x00' ∉ name.toList) (resolved : Path.resolve? (fun _ => none) "/" name = some [name]) :
    filePath (oneFile env name bs) (.text name) = .ok (some [name]) :=
  (filePath_text nonempty plain).trans (namedPath_of_resolved nonempty resolved)

end Config
end AccountInput
