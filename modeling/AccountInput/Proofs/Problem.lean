import AccountInput.Proofs.Value.Reported

namespace AccountInput

/-- A fault that is a problem with the configuration. -/
def Fault.IsConfig (f : Fault) : Prop := ∃ p chained, f = .problem p chained ∧ p.kind = .config

/-- A problem with the configuration whose text can be written. -/
def Fault.IsWorded (f : Fault) : Prop :=
  ∃ p chained t, f = .problem p chained ∧ p.kind = .config ∧ p.text = .ok t

theorem Fault.IsWorded.isConfig {f : Fault} (worded : f.IsWorded) : f.IsConfig := by
  obtain ⟨p, chained, _, same, kind, _⟩ := worded
  exact ⟨p, chained, same, kind⟩

namespace Problem

/-- What a problem shows of its data. -/
def ShownAs (data shown : List (String × Value)) : Prop :=
  List.Forall₂ (fun d e => d.1 = e.1 ∧ d.2.reported? = some e.2) data shown

/-- Data that a problem shows as it is. -/
def Plain (data : List (String × Value)) : Prop := ∀ d ∈ data, d.2.isReportable = true

theorem plain_nil : Plain [] := nofun

theorem Plain.cons {name : String} {v : Value} {data : List (String × Value)} (shown : v.isReportable = true)
    (plain : Plain data) : Plain ((name, v) :: data) := List.forall_mem_cons.mpr ⟨shown, plain⟩

theorem plain_singleton {name : String} {v : Value} (shown : v.isReportable = true) : Plain [(name, v)] :=
  plain_nil.cons shown

theorem Plain.shownAs {data : List (String × Value)} (plain : Plain data) : ShownAs data data :=
  List.forall₂_same.mpr fun d member => ⟨rfl, Value.reported?_eq_some_iff.mpr (.kept (plain d member))⟩

theorem reportedEntries_of_shownAs {data shown : List (String × Value)} (shows : ShownAs data shown) :
    Value.reportedEntries (Value.ofFields data) = .ok (Value.ofFields shown) := by
  rw [Value.reportedEntries_eq_ok_iff, Value.ofFields, Value.ofFields, List.forall₂_map_left_iff, List.forall₂_map_right_iff]
  exact shows.imp fun d e each => ⟨congrArg Value.text each.1.symm, Value.reported?_eq_some_iff.mp each.2⟩

theorem fail_eq_of_shownAs (kind : ProblemKind) (code : ProblemCode) (message : String)
    {data shown : List (String × Value)} (shows : ShownAs data shown) (chained : Bool) :
    fail kind code message data chained =
      .problem ⟨kind, .code code, .text message, .dict (Value.ofFields shown), none⟩ chained := by
  have made : make kind code (.text message) data =
      .ok ⟨kind, .code code, .text message, .dict (Value.ofFields shown), none⟩ := by
    rw [make, reportedEntries_of_shownAs shows]
    rfl
  rw [fail, made]

theorem fail_eq_of_plain (kind : ProblemKind) (code : ProblemCode) (message : String) {data : List (String × Value)}
    (plain : Plain data) (chained : Bool) : fail kind code message data chained =
      .problem ⟨kind, .code code, .text message, .dict (Value.ofFields data), none⟩ chained :=
  fail_eq_of_shownAs kind code message plain.shownAs chained

theorem isWireFormat_wireFormat (message : String) {data : List (String × Value)} (plain : Plain data) :
    (wireFormat message data).isWireFormat = true := by
  rw [wireFormat, fail_eq_of_plain _ _ _ plain]
  rfl

theorem isWireFormat_wireFormatFrom (message : String) {data : List (String × Value)} (plain : Plain data) :
    (wireFormatFrom message data).isWireFormat = true := by
  rw [wireFormatFrom, fail_eq_of_plain _ _ _ plain]
  rfl

theorem exists_preview_iff {v : Value} (shown : v.isReportable = true) :
    (∃ t, preview v = .ok t) ↔ ∃ t, v.str? = some t := by
  have same : v.reported = .ok v := Value.reported_eq_ok_iff.mpr (.kept shown)
  rw [preview, same]
  simp only [bind, Except.bind, Value.str]
  cases v.str? with
  | none => exact ⟨nofun, nofun⟩
  | some t => exact ⟨fun _ => ⟨t, rfl⟩, fun _ => ⟨cut t, rfl⟩⟩

theorem exists_previews_iff {data shown : List (String × Value)} (shows : ShownAs data shown) :
    (∃ t, previews (Value.ofFields shown) = .ok t) ↔ ∀ d ∈ data, ∃ t, d.2.str? = some t := by
  refine Iff.trans exists_bind_ok_iff (Iff.trans exists_mapM_iff ?_)
  simp only [Value.ofFields, List.forall_mem_map]
  induction shows with
  | nil => exact iff_of_true nofun nofun
  | cons first _ ih =>
    rw [List.forall_mem_cons, List.forall_mem_cons]
    have reported := Value.reported?_eq_some_iff.mp first.2
    refine and_congr (Iff.trans ?_ ((exists_preview_iff reported.isReportable).trans reported.exists_str_iff)) ih
    exact exists_bind_ok_iff

/-- The text of a problem can be written if all of its data can. -/
theorem exists_text_iff (kind : ProblemKind) (code : ProblemCode) (message : String)
    {data shown : List (String × Value)} (shows : ShownAs data shown) :
    (∃ t, text ⟨kind, .code code, .text message, .dict (Value.ofFields shown), none⟩ = .ok t) ↔
      ∀ d ∈ data, ∃ t, d.2.str? = some t := by
  cases shows with
  | nil => exact ⟨fun _ => nofun, fun _ => ⟨_, rfl⟩⟩
  | cons first rest => exact Iff.trans exists_bind_ok_iff (exists_previews_iff (.cons first rest))

theorem isWorded_fail (message : String) {data shown : List (String × Value)} (shows : ShownAs data shown)
    (chained : Bool) : (fail .config .config message data chained).IsWorded ↔ ∀ d ∈ data, ∃ t, d.2.str? = some t := by
  rw [fail_eq_of_shownAs _ _ message shows, ← exists_text_iff .config .config message shows]
  constructor
  · rintro ⟨_, _, t, same, _, text⟩
    cases same
    exact ⟨t, text⟩
  · rintro ⟨t, text⟩
    exact ⟨_, _, t, rfl, rfl, text⟩

theorem shownAs_singleton (name : String) {v w : Value} (reported : v.reported? = some w) :
    ShownAs [(name, v)] [(name, w)] := .cons ⟨rfl, reported⟩ .nil

/-- A problem with the configuration is made of any value that has a text, or that is shown as it is. -/
theorem isConfig_config (message name : String) {v : Value} (shown : ∃ w, v.reported? = some w) :
    (config message [(name, v)]).IsConfig := by
  obtain ⟨w, reported⟩ := shown
  exact ⟨_, _, fail_eq_of_shownAs _ _ message (shownAs_singleton name reported) _, rfl⟩

theorem isWorded_config_iff (message name : String) (v : Value) :
    (config message [(name, v)]).IsWorded ↔ ∃ t, v.str? = some t := by
  cases reported : v.reported? with
  | some w =>
    exact (isWorded_fail message (shownAs_singleton name reported) false).trans List.forall_mem_singleton
  | none =>
    have refused : config message [(name, v)] = .tooManyDigits := by
      have hidden : v.reported = .error .tooManyDigits := by
        simp only [Value.reported]
        rw [reported]
      simp only [config, fail, make, Value.reportedEntries, Value.ofFields, List.map_cons, List.map_nil,
        List.mapM_cons, hidden, bind, Except.bind]
    rw [refused, Value.str?_of_not_reported reported]
    refine iff_of_false ?_ ?_
    · rintro ⟨_, _, _, same, _⟩
      cases same
    · rintro ⟨_, none⟩
      cases none

end Problem
end AccountInput
