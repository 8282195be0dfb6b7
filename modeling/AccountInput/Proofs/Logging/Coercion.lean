import AccountInput.Logging.Context
import AccountInput.Proofs.Value.Reported
import AccountInput.Proofs.Value.Wording

namespace AccountInput
namespace Value

/-- What a value becomes in a log line: a record becomes the dictionary of what its parts become. -/
inductive LoggedAs : Value → Value → Prop
  | single {v w : Value} (single : v.isRecord = false) (reported : v.ReportedAs w) : LoggedAs v w
  | record {v : Value} {es shown : List (Value × Value)} (record : v.isRecord = true)
    (unfolds : v.unfolded? = some (.dict es))
    (parts : List.Forall₂ (fun e e' => e'.1 = e.1 ∧ e.2.ReportedAs e'.2) es shown) : LoggedAs v (.dict shown)

variable {v w : Value}

/-- A value becomes what its kind makes of it, and nothing where that has no text. -/
theorem logged_eq_ok_iff : v.logged = .ok w ↔ v.LoggedAs w := by
  cases record : v.isRecord with
  | false =>
    simp only [logged, record, Bool.false_eq_true, if_false]
    rw [reported_eq_ok_iff]
    constructor
    · exact .single record
    · rintro (⟨-, reported⟩ | ⟨other, -, -⟩)
      · exact reported
      · cases record.symm.trans other
  | true =>
    simp only [logged, record, if_true]
    constructor
    · intro run
      split at run
      · rename_i es unfolds
        obtain ⟨shown, reported, same⟩ := ok_of_bind run
        cases same
        exact .record record unfolds (reportedEntries_eq_ok_iff.mp reported)
      · cases run
    · rintro (⟨single, -⟩ | ⟨-, unfolds, parts⟩)
      · cases record.symm.trans single
      · rw [unfolds]
        exact bind_eq_ok_iff.mpr ⟨_, reportedEntries_eq_ok_iff.mpr parts, rfl⟩

/-- A value that becomes something in a line: it stays as it is, or it has a text, or it is a record that unfolds into
named parts of which each does so. -/
inductive IsCoercible : Value → Prop
  | kept {v : Value} (single : v.isRecord = false) (kept : v.isReportable = true) : IsCoercible v
  | worded {v : Value} (single : v.isRecord = false) (worded : v.isWorded = true) : IsCoercible v
  | record {v : Value} {es : List (Value × Value)} (record : v.isRecord = true) (unfolds : v.unfolded? = some (.dict es))
      (parts : ∀ e ∈ es, e.2.isReportable = true ∨ e.2.isWorded = true) : IsCoercible v

theorem exists_reported_iff : (∃ w, v.reported = .ok w) ↔ v.isReportable = true ∨ v.isWorded = true := by
  simp only [reported_eq_ok_iff, ← isSome_str]
  constructor
  · rintro ⟨w, basic | bs | bs | ⟨-, -, -, text⟩⟩
    · exact .inl basic
    · exact .inr rfl
    · exact .inr rfl
    · exact .inr (Option.isSome_of_mem text)
  · intro shown
    cases basic : v.isReportable with
    | true => exact ⟨v, .kept basic⟩
    | false =>
      obtain ⟨t, text⟩ := Option.isSome_iff_exists.mp (shown.resolve_left (Bool.eq_false_iff.mp basic))
      cases v
      case bytes form bs =>
        cases form with
        | fixed => exact ⟨_, .fixed bs⟩
        | growable => exact ⟨_, .growable bs⟩
        | view => exact ⟨_, .worded basic nofun nofun text⟩
      all_goals exact ⟨_, .worded basic nofun nofun text⟩

theorem exists_logged_iff : (∃ w, v.logged = .ok w) ↔ v.IsCoercible := by
  have entries (es : List (Value × Value)) :
      (∃ shown, reportedEntries es = .ok shown) ↔ ∀ e ∈ es, e.2.isReportable = true ∨ e.2.isWorded = true := by
    rw [reportedEntries, exists_mapM_iff]
    refine forall₂_congr fun e _ => ?_
    rw [← exists_reported_iff]
    exact exists_bind_ok_iff
  simp only [logged_eq_ok_iff]
  constructor
  · rintro ⟨w, ⟨single, reported⟩ | ⟨record, unfolds, parts⟩⟩
    · rcases exists_reported_iff.mp ⟨w, reported_eq_ok_iff.mpr reported⟩ with kept | worded
      · exact .kept single kept
      · exact .worded single worded
    · exact .record record unfolds ((entries _).mp ⟨_, reportedEntries_eq_ok_iff.mpr parts⟩)
  · rintro (⟨single, kept⟩ | ⟨single, worded⟩ | ⟨record, unfolds, parts⟩)
    · exact ⟨v, .single single (.kept kept)⟩
    · obtain ⟨w, reported⟩ := exists_reported_iff.mpr (.inr worded)
      exact ⟨w, .single single (reported_eq_ok_iff.mp reported)⟩
    · obtain ⟨shown, reported⟩ := (entries _).mpr parts
      exact ⟨_, .record record unfolds (reportedEntries_eq_ok_iff.mp reported)⟩

end Value
end AccountInput
