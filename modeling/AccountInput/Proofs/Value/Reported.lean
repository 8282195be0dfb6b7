import AccountInput.Proofs.Outcome

namespace AccountInput
namespace Value

/-- What a value that is no record becomes in a report: bytes become hexadecimal text, and what is neither of a basic
type nor a list or a dictionary becomes its own text. -/
inductive ReportedAs : Value → Value → Prop
  | kept {v : Value} (basic : v.isReportable = true) : ReportedAs v v
  | fixed (bs : List UInt8) : ReportedAs (.bytes .fixed bs) (.text (Hex.text bs))
  | growable (bs : List UInt8) : ReportedAs (.bytes .growable bs) (.text (Hex.text bs))
  | worded {v : Value} {t : String} (other : v.isReportable = false) (unfixed : ∀ bs, v ≠ .bytes .fixed bs)
    (ungrowable : ∀ bs, v ≠ .bytes .growable bs) (text : v.str? = some t) : ReportedAs v (.text t)

variable {v w : Value}

theorem reported?_eq_some_iff : v.reported? = some w ↔ v.ReportedAs w := by
  unfold reported?
  constructor
  · intro run
    split at run
    · rename_i basic
      cases run
      exact .kept basic
    · rename_i other
      have other := Bool.eq_false_iff.mpr other
      split at run
      · cases run
        exact .fixed _
      · cases run
        exact .growable _
      · rename_i unfixed ungrowable
        obtain ⟨t, text, rfl⟩ := Option.map_eq_some_iff.mp run
        exact .worded other unfixed ungrowable text
  · rintro (basic | bs | bs | ⟨other, unfixed, ungrowable, text⟩)
    · exact if_pos basic
    · rfl
    · rfl
    · rw [if_neg (Bool.eq_false_iff.mp other)]
      split
      · exact absurd rfl (unfixed _)
      · exact absurd rfl (ungrowable _)
      · exact congrArg (Option.map Value.text) text

theorem reported_eq_ok_iff : v.reported = .ok w ↔ v.ReportedAs w := by
  rw [← reported?_eq_some_iff, reported]
  cases v.reported? with
  | none =>
    constructor
    · intro run
      cases run
    · intro run
      cases run
  | some u => exact ⟨fun run => congrArg some (Except.ok.inj run), fun run => congrArg Except.ok (Option.some.inj run)⟩

theorem reportedEntries_eq_ok_iff {es shown : List (Value × Value)} : reportedEntries es = .ok shown ↔
    List.Forall₂ (fun e e' => e'.1 = e.1 ∧ e.2.ReportedAs e'.2) es shown := by
  have entry (e e' : Value × Value) : (do let w ← e.2.reported; return (e.1, w)) = Except.ok (ε := Fault) e' ↔
      e'.1 = e.1 ∧ e.2.ReportedAs e'.2 := by
    simp only [bind_eq_ok_iff, reported_eq_ok_iff]
    constructor
    · rintro ⟨w, reported, same⟩
      cases same
      exact ⟨rfl, reported⟩
    · rintro ⟨key, reported⟩
      exact ⟨e'.2, reported, congrArg Except.ok (Prod.ext key.symm rfl)⟩
  rw [reportedEntries, mapM_eq_ok_iff]
  simp only [entry]

namespace ReportedAs

theorem isReportable (reported : v.ReportedAs w) : w.isReportable = true := by
  cases reported with
  | kept basic => exact basic
  | fixed | growable | worded => rfl

/-- A value has a text in a report if and only if it has one of its own. -/
theorem exists_str_iff (reported : v.ReportedAs w) : (∃ t, w.str? = some t) ↔ ∃ t, v.str? = some t := by
  cases reported with
  | kept => exact Iff.rfl
  | fixed => exact iff_of_true ⟨_, rfl⟩ ⟨_, rfl⟩
  | growable => exact iff_of_true ⟨_, rfl⟩ ⟨_, rfl⟩
  | worded _ _ _ text => exact iff_of_true ⟨_, rfl⟩ ⟨_, text⟩

end ReportedAs

theorem str?_of_not_reported (hidden : v.reported? = none) : v.str? = none := by
  unfold reported? at hidden
  split at hidden
  · cases hidden
  · split at hidden
    · cases hidden
    · cases hidden
    · exact Option.map_eq_none_iff.mp hidden

end Value
end AccountInput
