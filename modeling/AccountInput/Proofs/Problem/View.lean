import AccountInput.Problem.Addition
import AccountInput.Proofs.Value.Reported

namespace AccountInput

/-- What a report shows of a value consists of what JSON has unless the value is shown as it is and does not. -/
theorem Value.ReportedAs.isJson_iff {v w : Value} {whole : Int → Bool} (reported : v.ReportedAs w) :
    w.isJson whole = true ↔ (v.isReportable = true → v.isJson whole = true) := by
  have spoken {t : String} : (Value.text t).isJson whole = true := by rw [isJson]
  cases reported with
  | kept basic => exact ⟨fun plain _ => plain, fun plain => plain basic⟩
  | fixed => exact iff_of_true spoken Bool.noConfusion
  | growable => exact iff_of_true spoken Bool.noConfusion
  | worded other => exact iff_of_true spoken fun basic => absurd (other.symm.trans basic) Bool.noConfusion

namespace Problem

/-- Entries that show fields: each under its name, in the same order, in the form that a report gives its value. -/
def Shows (fs : Fields) (es : List (Value × Value)) : Prop :=
  List.Forall₂ (fun f e => e.1 = .text f.1 ∧ f.2.reported = .ok e.2) fs es

/-- Data of which everything that is shown as it is consists of what JSON has. -/
def HoldsJson (whole : Int → Bool) (fs : Fields) : Prop :=
  ∀ f ∈ fs, f.2.isReportable = true → f.2.isJson whole = true

variable {fs more : Fields} {es shown : List (Value × Value)}

theorem shows_of_reportedEntries (run : Value.reportedEntries fs.entries = .ok es) : Shows fs es := by
  have each := Value.reportedEntries_eq_ok_iff.mp run
  rw [Fields.entries, Value.ofFields, List.forall₂_map_left_iff] at each
  exact each.imp fun f e entry => ⟨entry.1, Value.reported_eq_ok_iff.mpr entry.2⟩

theorem Shows.set (shows : Shows fs es) (name : String) {v w : Value} (value : v.reported = .ok w) :
    Shows (fs.set name v) (Value.insert es (.text name) w) := by
  induction shows with
  | nil => exact .cons ⟨rfl, value⟩ .nil
  | @cons f e fs es first _ ih =>
    obtain ⟨n, u⟩ := f
    obtain ⟨k, x⟩ := e
    obtain ⟨rfl, there⟩ := first
    have spelled : Value.sameKey (.text name) (.text n) = (n == name) := by
      simp only [Value.sameKey, Value.agrees, Value.leafEqual, Bool.beq_comm]
    rw [Fields.set_cons, Value.insert, spelled]
    split
    · exact .cons ⟨rfl, value⟩ ‹_›
    · exact .cons ⟨rfl, there⟩ ih

theorem Shows.merge (shows : Shows fs es) (brought : Shows more shown) :
    Shows (fs.merge more) (Value.merge es shown) := by
  induction brought generalizing fs es with
  | nil => exact shows
  | @cons f e more shown first _ ih =>
    obtain ⟨name, v⟩ := f
    obtain ⟨k, w⟩ := e
    obtain ⟨rfl, value⟩ := first
    exact ih (shows.set name value)

/-- What has been reported once is reported as it is. -/
theorem Shows.reportedEntries (shows : Shows fs es) : Value.reportedEntries es = .ok es := by
  refine Value.reportedEntries_eq_ok_iff.mpr ?_
  induction shows with
  | nil => exact .nil
  | cons first _ ih => exact .cons ⟨rfl, .kept (Value.reported_eq_ok_iff.mp first.2).isReportable⟩ ih

theorem Shows.haveJson_iff {whole : Int → Bool} (shows : Shows fs es) :
    Value.haveJson whole es = true ↔ HoldsJson whole fs := by
  induction shows with
  | nil => exact iff_of_true (by rw [Value.haveJson]) nofun
  | @cons f e fs es first _ ih =>
    obtain ⟨k, w⟩ := e
    obtain ⟨rfl, value⟩ := first
    rw [Value.haveJson, Value.isJsonKey, Bool.true_and, Bool.and_eq_true, ih, (Value.reported_eq_ok_iff.mp value).isJson_iff, HoldsJson,
      HoldsJson, List.forall_mem_cons]

/-- A problem with a text as its message, of which the data shows given fields. -/
structure Carries (p : Problem) (message : String) (fs : Fields) : Prop where
  said : p.message = .text message
  coded : ∃ c, codeText p.code = .ok c
  data : ∃ es, p.data = .dict es ∧ Shows fs es

theorem carries_of_ofMessage {kind : ProblemKind} {args : List Value} {named : Fields} {p : Problem} {m : String}
    (built : ofMessage kind args named = .ok p) (said : p.message = .text m) :
    p.Carries m (givenData kind named) := by
  unfold ofMessage at built
  split at built
  · cases built
  obtain ⟨message, _, built⟩ := ok_of_bind built
  obtain ⟨⟨code, data⟩, split, built⟩ := ok_of_bind built
  obtain ⟨es, reported, built⟩ := ok_of_bind built
  obtain ⟨_, headed, same⟩ := ok_of_bind built
  obtain ⟨c, coded, _⟩ := ok_of_bind headed
  cases same
  refine ⟨said, ⟨c, coded⟩, es, rfl, ?_⟩
  rw [givenData, split]
  exact shows_of_reportedEntries reported

theorem Carries.add {p q : Problem} {m : String} {a : Addition} (carries : p.Carries m fs) (added : p.add a = .ok q) :
    q.Carries m (grown fs a) := by
  obtain ⟨said, coded, es, data, shows⟩ := carries
  cases a with
  | cause c =>
    cases added
    exact ⟨said, coded, es, data, shows⟩
  | context more =>
    rw [Problem.add, withContext, data] at added
    dsimp only [Value.entries?] at added
    split at added
    · cases added
    obtain ⟨shown, reported, same⟩ := ok_of_bind added
    cases same
    exact ⟨said, coded, _, rfl, shows.merge (shows_of_reportedEntries reported)⟩

/-- Whatever is added to a problem, it shows all that was given, the later over the earlier. -/
theorem Carries.foldlM_add {p q : Problem} {m : String} {additions : List Addition} (carries : p.Carries m fs)
    (added : additions.foldlM Problem.add p = .ok q) : q.Carries m (additions.foldl grown fs) := by
  induction additions generalizing p fs with
  | nil =>
    cases added
    exact carries
  | cons a additions ih =>
    obtain ⟨r, first, rest⟩ := ok_of_bind added
    exact ih (carries.add first) rest

theorem Carries.exists_fieldsView {p : Problem} {m : String} (carries : p.Carries m fs) :
    ∃ c es, p.fieldsView = .ok [("code", .text c), ("message", .text m), ("data", .dict es)] ∧ Shows fs es := by
  obtain ⟨said, ⟨c, coded⟩, es, data, shows⟩ := carries
  refine ⟨c, es, ?_, shows⟩
  have view : p.dataView = .ok (.dict es) := by
    rw [dataView, data]
    exact bind_eq_ok_iff.mpr ⟨es, shows.reportedEntries, rfl⟩
  rw [fieldsView, coded, view, said]
  rfl

/-- A cause is shown by the name of its type and by its text. -/
theorem haveJson_causeView {c : Cause Problem} {view : Fields} (run : causeView c = .ok view) (whole : Int → Bool) :
    Value.haveJson whole view.entries = true := by
  have texts : ∃ t s, view = [("type", .text t), ("message", .text s)] := by
    cases c with
    | problem p =>
      obtain ⟨t, _, same⟩ := ok_of_bind run
      exact ⟨_, t, (Except.ok.inj same).symm⟩
    | failure f =>
      rw [causeView] at run
      split at run
      · exact ⟨_, _, (Except.ok.inj run).symm⟩
      · cases run
    | value v =>
      obtain ⟨t, _, same⟩ := ok_of_bind run
      exact ⟨_, t, (Except.ok.inj same).symm⟩
  obtain ⟨t, s, rfl⟩ := texts
  simp only [Fields.entries, Value.ofFields, List.map_cons, List.map_nil, Value.haveJson, Value.isJsonKey, Value.isJson,
    Bool.and_self]

/-- Of the entries that every view begins with, only the data can be other than what JSON has. -/
theorem haveJson_fieldsView (whole : Int → Bool) (c m : String) (es more : List (Value × Value)) :
    Value.haveJson whole (Fields.entries [("code", .text c), ("message", .text m), ("data", .dict es)] ++ more) =
      (Value.haveJson whole es && Value.haveJson whole more) := by
  simp only [Fields.entries, Value.ofFields, List.map_cons, List.map_nil, List.cons_append, List.nil_append,
    Value.haveJson, Value.isJsonKey, Value.isJson, Bool.true_and]

theorem Carries.exists_toDict {p : Problem} {m : String} (carries : p.Carries m fs) (whole : Int → Bool) :
    ∃ d, p.toDict = .ok d ∧ (d.isJson whole = true ↔ HoldsJson whole fs) := by
  obtain ⟨c, es, fields, shows⟩ := carries.exists_fieldsView
  refine ⟨_, bind_eq_ok_iff.mpr ⟨_, fields, rfl⟩, ?_⟩
  have alone := haveJson_fieldsView whole c m es []
  rw [List.append_nil, Value.haveJson, Bool.and_true] at alone
  rw [Value.isJson, alone, shows.haveJson_iff]

theorem Carries.exists_toFullDict_iff {p : Problem} {m : String} (carries : p.Carries m fs) (whole : Int → Bool) :
    (∃ d, p.toFullDict = .ok d ∧ d.isJson whole = true) ↔
      HoldsJson whole fs ∧ ∀ c, p.cause = some c → ∃ view, causeView c = .ok view := by
  cases given : p.cause with
  | none =>
    have same : p.toFullDict = p.toDict := by rw [toFullDict, toDict, given]
    obtain ⟨d, run, plain⟩ := carries.exists_toDict whole
    rw [same, run]
    constructor
    · rintro ⟨_, same, holds⟩
      cases same
      exact ⟨plain.mp holds, nofun⟩
    · rintro ⟨holds, _⟩
      exact ⟨d, rfl, plain.mpr holds⟩
  | some cause =>
    obtain ⟨c, es, fields, shows⟩ := carries.exists_fieldsView
    rw [← shows.haveJson_iff, toFullDict, fields, given]
    constructor
    · rintro ⟨d, run, plain⟩
      obtain ⟨_, same, run⟩ := ok_of_bind run
      cases same
      obtain ⟨view, shown, same⟩ := ok_of_bind run
      cases same
      rw [Value.isJson, haveJson_fieldsView, Bool.and_eq_true] at plain
      refine ⟨plain.1, fun c same => ⟨view, ?_⟩⟩
      cases same
      exact shown
    · rintro ⟨plain, worded⟩
      obtain ⟨view, shown⟩ := worded cause rfl
      refine ⟨_, bind_eq_ok_iff.mpr ⟨_, rfl, bind_eq_ok_iff.mpr ⟨view, shown, rfl⟩⟩, ?_⟩
      have below : Value.haveJson whole (Fields.entries [("cause", .dict view.entries)]) = true := by
        simp only [Fields.entries, Value.ofFields, List.map_cons, List.map_nil, Value.haveJson, Value.isJsonKey,
          Value.isJson, Bool.true_and, Bool.and_true]
        exact haveJson_causeView shown whole
      rw [Value.isJson, haveJson_fieldsView, plain, below, Bool.and_self]

/-- The views of a problem consist of what JSON has if and only if the given data does so wherever it is shown
as it is. The view without the cause is there always, and the one with it if the cause has a text. -/
theorem views_isJson_iff {kind : ProblemKind} {args : List Value} {named : Fields} {p q : Problem} {m : String}
    {additions : List Addition} (special : kind ≠ .general) (built : ofArguments kind args named = .ok p)
    (said : p.message = .text m) (added : additions.foldlM Problem.add p = .ok q) (whole : Int → Bool) :
    (∃ d, q.toDict = .ok d ∧
      (d.isJson whole = true ↔ HoldsJson whole (additions.foldl grown (givenData kind named)))) ∧
    ((∃ d, q.toFullDict = .ok d ∧ d.isJson whole = true) ↔
      HoldsJson whole (additions.foldl grown (givenData kind named)) ∧
        ∀ c, q.cause = some c → ∃ view, causeView c = .ok view) := by
  have made : ofMessage kind args named = .ok p := by
    cases kind with
    | general => exact absurd rfl special
    | _ => exact built
  have carries := (carries_of_ofMessage made said).foldlM_add added
  exact ⟨carries.exists_toDict whole, carries.exists_toFullDict_iff whole⟩

/-- Bytes by themselves, and a tuple within a dictionary. -/
def mixedFields : Fields :=
  [("blob", .bytes .fixed [1, 2]), ("nested", .dict [(.text "k", .tuple [.int 1, .int 2])])]

/-- Other bytes under a name that is there, and a cause. -/
def laterAdditions : List Addition :=
  [.context [("blob", .bytes .growable [3])], .cause (.failure ⟨"ValueError", [.text "inner"]⟩)]

theorem views_isJson_mixed : ∃ p q, ofArguments .wireFormat [.text "bad"] mixedFields = .ok p ∧
    laterAdditions.foldlM Problem.add p = .ok q ∧ ∃ d, q.toFullDict = .ok d ∧ d.isJson (fun _ => true) = true := by
  have special : ProblemKind.wireFormat ≠ .general := by decide
  have built : ofArguments .wireFormat [.text "bad"] mixedFields = .ok ⟨.wireFormat, .code .wireFormat, .text "bad",
      .dict (Value.ofFields [("blob", .text "0102"), ("nested", .dict [(.text "k", .tuple [.int 1, .int 2])])]), none⟩ :=
    rfl
  have holds : HoldsJson (fun _ => true) (laterAdditions.foldl grown (givenData .wireFormat mixedFields)) := by
    have same : laterAdditions.foldl grown (givenData .wireFormat mixedFields) =
        [("blob", .bytes .growable [3]), ("nested", .dict [(.text "k", .tuple [.int 1, .int 2])])] :=
      rfl
    rw [same]
    intro f member shown
    simp only [List.mem_cons, List.not_mem_nil, or_false] at member
    rcases member with rfl | rfl
    · cases shown
    · rfl
  refine ⟨_, _, built, rfl, (views_isJson_iff special built rfl rfl _).2.mpr ⟨holds, ?_⟩⟩
  rintro c ⟨⟩
  exact ⟨_, rfl⟩

/-- Bytes in a list stay bytes. -/
theorem toDict_listedBytes : ∃ p d,
    ofArguments .config [.text "m"] [("x", .list [.bytes .fixed [0]])] = .ok p ∧ p.toDict = .ok d ∧
    p.toFullDict = .ok d ∧ d.isJson (fun _ => true) = false :=
  ⟨_, _, rfl, rfl, rfl, by decide⟩

end Problem
end AccountInput
