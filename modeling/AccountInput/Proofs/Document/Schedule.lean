import AccountInput.Proofs.Document.Timing
import AccountInput.Proofs.Value.Data

namespace AccountInput

theorem Fault.Blames.unique {f : Fault} {field other : Value} (blames : f.Blames field) (again : f.Blames other) :
    field = other := by
  obtain ⟨p, chained, es, rfl, _, entries, found⟩ := blames
  obtain ⟨_, _, _, same, _, entries', found'⟩ := again
  cases same
  cases entries.symm.trans entries'
  exact Option.some.inj (found.symm.trans found')

namespace Document

/-- A key of a schedule that has no number in an object, where each of the keys before it has one. -/
def FirstAtFault (ms : List (Value × Value)) (key : String) : Prop :=
  ∃ before after, scheduleKeys = before ++ key :: after ∧ (∀ k ∈ before, ∃ n, Holds ms k n) ∧ ∀ n, ¬Holds ms key n

variable {ms : List (Value × Value)}

/-- Too many digits take a text of at least as many characters. -/
theorem LongUnder.exists_text {key : String} (long : LongUnder ms key) :
    ∃ v s, Value.get? ms key = some v ∧ v.text? = some s ∧ Decimal.digitLimit < s.toList.length := by
  obtain ⟨digits, ⟨v, s, found, text, _, _, plain | signed⟩, many⟩ := long
  · exact ⟨v, s, found, text, plain ▸ many⟩
  · exact ⟨v, s, found, text, signed ▸ Nat.lt_succ_of_lt many⟩

/-- Where no number is too long to be read, the first key without one is blamed. -/
theorem exists_schedule_blames_iff (short : ∀ k ∈ scheduleKeys, ¬LongUnder ms k) (key : String) :
    (∃ f, schedule ms = .error f ∧ f.Blames (.text key)) ↔ FirstAtFault ms key := by
  constructor
  · rintro ⟨f, failed, blames⟩
    obtain ⟨before, k, after, split, well, here⟩ := schedule_eq_error_iff.mp failed
    have member : k ∈ scheduleKeys := split ▸ List.mem_append_right before (List.mem_cons_self ..)
    rcases number_cases ms k with ⟨_, run, _⟩ | ⟨_, long⟩ | ⟨g, run, own, none, _⟩
    · rw [run] at here
      cases here
    · exact absurd long (short k member)
    · cases run.symm.trans here
      cases blames.unique own
      exact ⟨before, after, split, fun k member => (well k member).1, none⟩
  · rintro ⟨before, after, split, well, none⟩
    have member : key ∈ scheduleKeys := split ▸ List.mem_append_right before (List.mem_cons_self ..)
    have read : ∀ k ∈ before, (∃ n, Holds ms k n) ∧ ¬LongUnder ms k := fun k early =>
      ⟨well k early, short k (split ▸ List.mem_append_left _ early)⟩
    rcases number_cases ms key with ⟨n, _, holds, _⟩ | ⟨_, long⟩ | ⟨f, run, blames, _⟩
    · exact absurd holds (none n.1)
    · exact absurd long (short key member)
    · exact ⟨f, schedule_eq_error_iff.mpr ⟨before, key, after, split, read, run⟩, blames⟩

theorem exists_schedule_or_firstAtFault (short : ∀ k ∈ scheduleKeys, ¬LongUnder ms k) :
    (∃ d, schedule ms = .ok d) ∨ ∃ key, FirstAtFault ms key := by
  cases outcome : schedule ms with
  | ok d => exact .inl ⟨d, rfl⟩
  | error f =>
    obtain ⟨before, key, after, split, _, here⟩ := schedule_eq_error_iff.mp outcome
    rcases number_fails f here with rfl | blames
    · have member : key ∈ scheduleKeys := split ▸ List.mem_append_right before (List.mem_cons_self ..)
      exact absurd (number_eq_tooManyDigits_iff.mp here) (short key member)
    · exact .inr ⟨key, (exists_schedule_blames_iff short key).mp ⟨f, outcome, blames⟩⟩

end Document

open Document

/-- An object in which no number has too many digits is read as the schedule of its five numbers, and is refused
if and only if a key has none, by a problem that names the first such key in the order of the hash input. -/
theorem Schedule.ofDocument_object {doc : Value} {ms : List (Value × Value)} (object : doc.entries? = some ms)
    (short : ∀ k ∈ scheduleKeys, ¬LongUnder ms k) :
    (∀ d, Schedule.ofDocument doc = .ok d ↔ List.Forall₂ (Holds ms) scheduleKeys d.scalars) ∧
    (∀ key, (∃ f, Schedule.ofDocument doc = .error f ∧ f.Blames (.text key)) ↔ FirstAtFault ms key) ∧
    ((∃ d, Schedule.ofDocument doc = .ok d) ∨ ∃ key, FirstAtFault ms key) := by
  have run : Schedule.ofDocument doc = schedule ms := by
    rw [Schedule.ofDocument, members_eq_ok_iff.mpr (.inl object)]
    rfl
  rw [run]
  exact ⟨fun d => schedule_eq_ok_iff.trans (and_iff_right short), exists_schedule_blames_iff short,
    exists_schedule_or_firstAtFault short⟩

/-- A number with a sign and zeros, one with an underscore, null, one that is too large, and none. -/
def oddFields : Fields :=
  [("cliffAmount", .null), ("initialMinimumBalance", .text "+0005"), ("vestingPeriod", .text "18446744073709551616"),
    ("cliffTime", .text "1_0")]

/-- The field with the underscore is blamed, for the number before it is one. -/
theorem Schedule.ofDocument_oddFields : (∀ k ∈ scheduleKeys, ¬LongUnder (Value.ofFields oddFields) k) ∧
    ∃ f, Schedule.ofDocument (.dict (Value.ofFields oddFields)) = .error f ∧ f.Blames (.text "cliffTime") := by
  have found (key : String) : Value.get? (Value.ofFields oddFields) key = oddFields.get? key :=
    Value.get?_ofFields oddFields key
  have texts : (oddFields.all fun f => f.2.text?.all fun s => decide (s.toList.length ≤ Decimal.digitLimit)) = true := by
    decide
  have short : ∀ k ∈ scheduleKeys, ¬LongUnder (Value.ofFields oddFields) k := by
    intro k _ long
    obtain ⟨v, s, there, text, many⟩ := long.exists_text
    rw [found] at there
    obtain ⟨f, first, rfl⟩ := Option.map_eq_some_iff.mp there
    have few := List.all_eq_true.mp texts f (List.mem_of_find?_eq_some first)
    rw [text] at few
    exact absurd (of_decide_eq_true few) (Nat.not_le.mpr many)
  have fault : FirstAtFault (Value.ofFields oddFields) "cliffTime" := by
    refine ⟨["initialMinimumBalance"], _, rfl, List.forall_mem_singleton.mpr ⟨5, "0005".toList, ?_, rfl, by decide⟩, ?_⟩
    · exact ⟨_, "+0005", (found _).trans rfl, rfl, by decide, List.all_eq_true.mp rfl, .inr rfl⟩
    · rintro n ⟨digits, ⟨v, s, there, text, _, all, spelled⟩, _⟩
      cases ((found _).symm.trans there : some (Value.text "1_0") = some v)
      cases (text : some "1_0" = some s)
      have underscore : '_' ∈ digits := by
        rcases spelled with plain | signed
        · rw [← plain]
          decide
        · cases signed
      exact absurd (all '_' underscore) (by decide)
  exact ⟨short, ((Schedule.ofDocument_object rfl short).2.1 "cliffTime").mpr fault⟩

end AccountInput
