import AccountInput.Proofs.Document.Number
import AccountInput.Proofs.Json.Reader

namespace AccountInput
namespace Document

/-- The text of a document that is one, or the bytes of one in UTF-8. -/
def textOf? : Value → Option String
  | .bytes .fixed bs | .bytes .growable bs => Utf8.toString? bs
  | v => v.text?

/-- A document reads as an object: it is one, or its text is the JSON text of one. -/
def ReadsAs (doc : Value) (ms : List (Value × Value)) : Prop :=
  doc.entries? = some ms ∨ ∃ s v, textOf? doc = some s ∧ Json.read s.toList = .ok v ∧ v.entries? = some ms

/-- A document that reads as an object which has the five numbers of a schedule. -/
def IsSchedule (doc : Value) (d : Schedule) : Prop :=
  ∃ ms, ReadsAs doc ms ∧ List.Forall₂ (Holds ms) scheduleKeys d.scalars

/-- A member of an object is a number of too many digits, and those before it are numbers that are read. -/
def LongMember (ms : List (Value × Value)) : Prop :=
  ∃ before key after, scheduleKeys = before ++ key :: after ∧
    (∀ k ∈ before, (∃ n, Holds ms k n) ∧ ¬LongUnder ms k) ∧ LongUnder ms key

/-- Reading a document comes to digits that are too many to be read. -/
def Overlong (doc : Value) : Prop :=
  (∃ s, textOf? doc = some s ∧ Json.MeetsLongInteger s.toList) ∨ ∃ ms, ReadsAs doc ms ∧ LongMember ms

theorem membersOfValue_eq_ok_iff {v : Value} {ms : List (Value × Value)} :
    membersOfValue v = .ok ms ↔ v.entries? = some ms := by
  unfold membersOfValue
  split
  · rename_i entries
    rw [entries, Except.ok.injEq, Option.some.injEq]
  · rename_i none
    rw [none]
    exact iff_of_false nofun nofun

theorem membersOfValue_blames (v : Value) : FailsOnly (fun f => f.Blames .null) (membersOfValue v) := by
  unfold membersOfValue
  split
  · exact failsOnly_ok _
  · exact failsOnly_error (Problem.fail_blames _ _ rfl (.cons rfl Problem.plain_nil) _)

theorem valueOfText_eq_ok_iff {s : String} {v : Value} : valueOfText s = .ok v ↔ Json.read s.toList = .ok v := by
  unfold valueOfText
  split <;> rename_i read <;> rw [read]
  · rw [Except.ok.injEq, Except.ok.injEq]
  all_goals exact iff_of_false nofun nofun

theorem valueOfText_eq_tooManyDigits_iff {s : String} :
    valueOfText s = .error .tooManyDigits ↔ Json.MeetsLongInteger s.toList := by
  rw [← Json.read_eq_tooManyDigits_iff]
  unfold valueOfText
  split <;> rename_i read <;> rw [read]
  · exact iff_of_false nofun nofun
  · refine iff_of_false ?_ nofun
    intro same
    exact (Problem.fail_blames _ _ rfl Problem.plain_nil _).ne_tooManyDigits (Except.error.inj same)
  · exact iff_of_true rfl rfl

theorem valueOfText_fails (s : String) :
    FailsOnly (fun f => f = .tooManyDigits ∨ f.Blames .null) (valueOfText s) := by
  unfold valueOfText
  split
  · exact failsOnly_ok _
  · exact failsOnly_error (.inr (Problem.fail_blames _ _ rfl Problem.plain_nil _))
  · exact failsOnly_error (.inl rfl)

/-- A document that is text is read as JSON; any other is the object itself, or bytes that are no text. -/
theorem members_cases (doc : Value) :
    (∃ s, textOf? doc = some s ∧ doc.entries? = none ∧ members doc = valueOfText s >>= membersOfValue) ∨
    (textOf? doc = none ∧ members doc = membersOfValue doc) ∨
    textOf? doc = none ∧ doc.entries? = none ∧ ∃ f, members doc = .error f ∧ f.Blames .null := by
  have bytes (bs : List UInt8) :
      (∃ s, Utf8.toString? bs = some s ∧ textOfBytes bs = .ok s) ∨
        Utf8.toString? bs = none ∧ ∃ f, textOfBytes bs = .error f ∧ f.Blames .null := by
    unfold textOfBytes
    split
    · exact .inl ⟨_, ‹_›, rfl⟩
    · exact .inr ⟨‹_›, _, rfl, Problem.fail_blames _ _ rfl Problem.plain_nil _⟩
  cases doc
  case bytes form bs =>
    cases form
    case view => exact .inr (.inl ⟨rfl, rfl⟩)
    all_goals
      rcases bytes bs with ⟨s, text, run⟩ | ⟨none, f, run, blames⟩
      · exact .inl ⟨s, text, rfl, by simp only [members, run]; rfl⟩
      · exact .inr (.inr ⟨none, rfl, f, by simp only [members, run]; rfl, blames⟩)
  case text s => exact .inl ⟨s, rfl, rfl, rfl⟩
  case code c => exact .inl ⟨c.text, rfl, rfl, rfl⟩
  all_goals exact .inr (.inl ⟨rfl, rfl⟩)

theorem members_eq_ok_iff {doc : Value} {ms : List (Value × Value)} : members doc = .ok ms ↔ ReadsAs doc ms := by
  rw [ReadsAs]
  rcases members_cases doc with ⟨s, text, none, run⟩ | ⟨none, run⟩ | ⟨none, none', f, run, _⟩
  · rw [run, bind_eq_ok_iff, none, text]
    simp only [valueOfText_eq_ok_iff, membersOfValue_eq_ok_iff, reduceCtorEq, false_or, Option.some.injEq]
    constructor
    · rintro ⟨v, read⟩
      exact ⟨s, v, rfl, read⟩
    · rintro ⟨_, v, rfl, read⟩
      exact ⟨v, read⟩
  · rw [run, membersOfValue_eq_ok_iff, none]
    refine (or_iff_left ?_).symm
    rintro ⟨_, _, text, _⟩
    cases text
  · rw [run, none, none']
    refine iff_of_false nofun ?_
    rintro (entries | ⟨_, _, text, _⟩)
    · cases entries
    · cases text

theorem members_eq_tooManyDigits_iff {doc : Value} :
    members doc = .error .tooManyDigits ↔ ∃ s, textOf? doc = some s ∧ Json.MeetsLongInteger s.toList := by
  rcases members_cases doc with ⟨s, text, _, run⟩ | ⟨none, run⟩ | ⟨none, _, f, run, blames⟩
  · rw [run, bind_eq_error_iff, valueOfText_eq_tooManyDigits_iff, text]
    constructor
    · rintro (long | ⟨v, _, refused⟩)
      · exact ⟨s, rfl, long⟩
      · exact absurd rfl (membersOfValue_blames v _ refused).ne_tooManyDigits
    · rintro ⟨_, same, long⟩
      cases same
      exact .inl long
  · rw [run, none]
    refine iff_of_false (fun refused => ?_) nofun
    exact absurd rfl (membersOfValue_blames doc _ refused).ne_tooManyDigits
  · rw [run, none]
    refine iff_of_false (fun refused => ?_) nofun
    exact blames.ne_tooManyDigits (Except.error.inj refused)

theorem members_fails (doc : Value) : FailsOnly (fun f => f = .tooManyDigits ∨ f.Blames .null) (members doc) := by
  rcases members_cases doc with ⟨s, _, _, run⟩ | ⟨_, run⟩ | ⟨_, _, f, run, blames⟩
  · rw [run]
    exact (valueOfText_fails s).bind fun v _ f refused => .inr (membersOfValue_blames v f refused)
  · rw [run]
    exact fun f refused => .inr (membersOfValue_blames doc f refused)
  · rw [run]
    exact failsOnly_error (.inr blames)

theorem schedule_eq_ok_iff {ms : List (Value × Value)} {d : Schedule} :
    schedule ms = .ok d ↔ (∀ k ∈ scheduleKeys, ¬LongUnder ms k) ∧ List.Forall₂ (Holds ms) scheduleKeys d.scalars := by
  rw [← List.forall₂_and_left]
  simp only [scheduleKeys, Schedule.scalars, List.forall₂_cons, List.Forall₂.nil, and_true]
  constructor
  · intro run
    obtain ⟨a, ha, run⟩ := ok_of_bind run
    obtain ⟨b, hb, run⟩ := ok_of_bind run
    obtain ⟨c, hc, run⟩ := ok_of_bind run
    obtain ⟨e, he, run⟩ := ok_of_bind run
    obtain ⟨f, hf, same⟩ := ok_of_bind run
    cases same
    exact ⟨(number_eq_ok_iff.mp ha).symm, (number_eq_ok_iff.mp hb).symm, (number_eq_ok_iff.mp hc).symm,
      (number_eq_ok_iff.mp he).symm, (number_eq_ok_iff.mp hf).symm⟩
  · rintro ⟨ha, hb, hc, he, hf⟩
    have read {key : String} {n : Nat} (range : n < UInt64.size) (holds : ¬LongUnder ms key ∧ Holds ms key n) :
        number ms key = .ok ⟨n, range⟩ := number_eq_ok_iff.mpr holds.symm
    simp only [schedule, bind_eq_ok_iff]
    exact ⟨_, read d.initialMinimumBalance.2 ha, _, read d.cliffTime.2 hb, _, read d.cliffAmount.2 hc,
      _, read d.vestingPeriod.2 he, _, read d.vestingIncrement.2 hf, rfl⟩

/-- The first key whose number is not read is the one that counts. -/
theorem schedule_eq_error_iff {ms : List (Value × Value)} {f : Fault} :
    schedule ms = .error f ↔ ∃ before key after, scheduleKeys = before ++ key :: after ∧
      (∀ k ∈ before, (∃ n, Holds ms k n) ∧ ¬LongUnder ms k) ∧ number ms key = .error f := by
  have well (k : String) : (∃ n, number ms k = .ok n) ↔ (∃ n, Holds ms k n) ∧ ¬LongUnder ms k := by
    simp only [number_eq_ok_iff, exists_and_right]
    refine and_congr_left fun _ => ⟨fun ⟨n, holds⟩ => ⟨n.1, holds⟩, fun ⟨n, holds⟩ => ⟨⟨n, ?_⟩, holds⟩⟩
    obtain ⟨_, _, _, range⟩ := holds
    exact range
  have mapped : schedule ms = .error f ↔ scheduleKeys.mapM (number ms) = .error f := by
    simp only [schedule, scheduleKeys, List.mapM_cons, List.mapM_nil, bind_eq_error_iff, pure, Except.pure,
      reduceCtorEq, and_false, exists_const, or_false]
  simp only [mapped, mapM_eq_error_iff, well]

theorem schedule_fails (ms : List (Value × Value)) :
    FailsOnly (fun f => f = .tooManyDigits ∨ ∃ field, f.Blames field) (schedule ms) := by
  intro f failed
  obtain ⟨_, key, _, _, _, here⟩ := schedule_eq_error_iff.mp failed
  exact (number_fails f here).imp_right fun blames => ⟨_, blames⟩

end Document

open Document

theorem Schedule.ofDocument_eq_tooManyDigits_iff {doc : Value} :
    Schedule.ofDocument doc = .error .tooManyDigits ↔ Overlong doc := by
  simp only [Schedule.ofDocument, bind_eq_error_iff, members_eq_ok_iff, members_eq_tooManyDigits_iff,
    schedule_eq_error_iff, number_eq_tooManyDigits_iff, Overlong, LongMember]

theorem Schedule.ofDocument_eq_ok_iff {doc : Value} {d : Schedule} :
    Schedule.ofDocument doc = .ok d ↔ IsSchedule doc d ∧ ¬Overlong doc := by
  constructor
  · intro run
    refine ⟨?_, fun long => ?_⟩
    · obtain ⟨ms, reads, run⟩ := ok_of_bind run
      exact ⟨ms, members_eq_ok_iff.mp reads, (schedule_eq_ok_iff.mp run).2⟩
    · rw [Schedule.ofDocument_eq_tooManyDigits_iff.mpr long] at run
      cases run
  · rintro ⟨⟨ms, reads, holds⟩, short⟩
    have held : ∀ k ∈ scheduleKeys, ∃ n, Holds ms k n :=
      ((List.forall₂_and_left _ _).mp (holds.imp fun k n here => ⟨⟨n, here⟩, here⟩)).1
    -- a number may be held by any count of digits, and only the first long one makes the document overlong
    have readable : ∀ k ∈ scheduleKeys, ¬LongUnder ms k := by
      cases outcome : schedule ms with
      | ok d => exact (schedule_eq_ok_iff.mp outcome).1
      | error f =>
        obtain ⟨before, key, after, split, well, failed⟩ := schedule_eq_error_iff.mp outcome
        obtain ⟨n, here⟩ := held key (split ▸ List.mem_append_right before (List.mem_cons_self ..))
        rcases number_cases ms key with ⟨m, run, _⟩ | ⟨_, long⟩ | ⟨_, _, _, none, _⟩
        · rw [run] at failed
          cases failed
        · exact absurd (.inr ⟨ms, reads, before, key, after, split, well, long⟩) short
        · exact absurd here (none n)
    rw [Schedule.ofDocument, members_eq_ok_iff.mpr reads]
    exact schedule_eq_ok_iff.mpr ⟨readable, holds⟩

theorem Schedule.ofDocument_fails (doc : Value) :
    FailsOnly (fun f => f = .tooManyDigits ∨ ∃ field, f.Blames field) (Schedule.ofDocument doc) := by
  refine FailsOnly.bind (fun f failed => ?_) fun ms _ => schedule_fails ms
  exact (members_fails doc f failed).imp_right fun blames => ⟨_, blames⟩

/-- What reading timing comes to: a schedule, digits that are too many, or a problem that is taken for the
absence of a schedule. -/
theorem Timing.ofDocument_cases (doc : Value) :
    (∃ d, Timing.ofDocument doc = .ok (.timed d, none) ∧ (∀ e, IsSchedule doc e ↔ e = d) ∧ ¬Overlong doc) ∨
    (Timing.ofDocument doc = .error .tooManyDigits ∧ Overlong doc) ∨
    ∃ p, Timing.ofDocument doc = .ok (.untimed, some p) ∧ (∀ e, ¬IsSchedule doc e) ∧ ¬Overlong doc := by
  cases outcome : Schedule.ofDocument doc with
  | ok d =>
    obtain ⟨holds, short⟩ := Schedule.ofDocument_eq_ok_iff.mp outcome
    refine .inl ⟨d, by rw [Timing.ofDocument, outcome], fun e => ⟨fun again => ?_, fun same => same ▸ holds⟩, short⟩
    have read := Schedule.ofDocument_eq_ok_iff.mpr ⟨again, short⟩
    rw [outcome] at read
    exact (Except.ok.inj read).symm
  | error f =>
    rcases Schedule.ofDocument_fails doc f outcome with rfl | ⟨field, blames⟩
    · have long := Schedule.ofDocument_eq_tooManyDigits_iff.mp outcome
      exact .inr (.inl ⟨by rw [Timing.ofDocument, outcome]; rfl, long⟩)
    · have short : ¬Overlong doc := by
        intro long
        rw [Schedule.ofDocument_eq_tooManyDigits_iff.mpr long] at outcome
        exact blames.ne_tooManyDigits (Except.error.inj outcome).symm
      obtain ⟨p, chained, es, rfl, kind, _⟩ := blames
      refine .inr (.inr ⟨p, by rw [Timing.ofDocument, outcome]; exact if_pos kind, fun e holds => ?_, short⟩)
      rw [Schedule.ofDocument_eq_ok_iff.mpr ⟨holds, short⟩] at outcome
      cases outcome

/-- Timing is read of every document, the schedule that the document is or the absence of one, unless
reading it comes to digits that are too many to be read; then that escapes, and nothing else ever does. -/
theorem Timing.ofDocument_total_iff (doc : Value) :
    ((∃ t why, Timing.ofDocument doc = .ok (t, why) ∧ ∀ d, t = .timed d ↔ IsSchedule doc d) ↔ ¬Overlong doc) ∧
    ∀ f, Timing.ofDocument doc = .error f → f = .tooManyDigits := by
  rcases Timing.ofDocument_cases doc with ⟨d, run, only, short⟩ | ⟨run, long⟩ | ⟨p, run, none, short⟩ <;> rw [run]
  · refine ⟨iff_of_true ⟨_, _, rfl, fun e => ?_⟩ short, nofun⟩
    rw [only e, Timing.timed.injEq, eq_comm]
  · refine ⟨iff_of_false (fun ⟨_, _, read, _⟩ => ?_) (not_not_intro long), fun f failed => ?_⟩
    · cases read
    · exact (Except.error.inj failed).symm
  · exact ⟨iff_of_true ⟨_, _, rfl, fun e => iff_of_false nofun (none e)⟩ short, nofun⟩

/-- One nine more than are read. -/
def manyNines : List Char := List.replicate 4301 '9'

theorem isDigit_of_mem_manyNines : ∀ c ∈ manyNines, Json.isDigit c = true := by
  intro c member
  rw [List.eq_of_mem_replicate member]
  rfl

theorem long_manyNines : Decimal.digitLimit < manyNines.length := by
  rw [manyNines, List.length_replicate]
  decide

/-- So many nines escape as a balance, where the other four fields are numbers, and as JSON text. -/
theorem Timing.ofDocument_manyNines :
    Timing.ofDocument (.dict (Value.ofFields [("initialMinimumBalance", .text (String.ofList manyNines)),
      ("cliffTime", .text "10"), ("cliffAmount", .text "2"), ("vestingPeriod", .text "3"),
      ("vestingIncrement", .text "1")])) = .error .tooManyDigits ∧
    Timing.ofDocument (.text (String.ofList manyNines)) = .error .tooManyDigits := by
  have escapes {doc : Value} (long : Overlong doc) : Timing.ofDocument doc = .error .tooManyDigits := by
    rw [Timing.ofDocument, Schedule.ofDocument_eq_tooManyDigits_iff.mpr long]
    rfl
  have letters : (String.ofList manyNines).toList = manyNines := String.toList_ofList
  constructor
  · have spells : Spells (String.ofList manyNines) manyNines :=
      ⟨List.ne_nil_of_length_pos (Nat.zero_lt_of_lt long_manyNines), isDigit_of_mem_manyNines, .inl letters⟩
    have member : LongMember (Value.ofFields [(initialMinimumBalance, .text (String.ofList manyNines)),
        (cliffTime, .text "10"), (cliffAmount, .text "2"), (vestingPeriod, .text "3"),
        (vestingIncrement, .text "1")]) :=
      ⟨[], _, _, rfl, nofun, manyNines, ⟨_, _, Value.get?_ofFields_cons _ _ _, rfl, spells⟩, long_manyNines⟩
    exact escapes (.inr ⟨_, .inl rfl, member⟩)
  · have here : Json.LongDigitsAt manyNines :=
      ⟨manyNines, [], (List.append_nil _).symm, isDigit_of_mem_manyNines, nofun, long_manyNines, nofun, rfl, rfl⟩
    have meets : Json.MeetsLongInteger manyNines :=
      ⟨[], manyNines, [], ⟨.value false, []⟩, false, (List.nil_append _).symm, (List.nil_append _).symm, rfl, rfl,
        .inl here⟩
    rw [← letters] at meets
    exact escapes (.inl ⟨_, rfl, meets⟩)

end AccountInput
