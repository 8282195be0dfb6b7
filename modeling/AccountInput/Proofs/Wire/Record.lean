import AccountInput.Proofs.Wire.Shape

namespace AccountInput

theorem strictInt?_eq_some_iff {v : Value} {n : Int} : v.strictInt? = some n ↔ v = .int n := by
  constructor
  · intro number
    cases v
    case int k => exact congrArg Value.int (Option.some.inj number)
    all_goals cases number
  · rintro rfl
    rfl

theorem u64OfValue_eq_ok_iff {v : Value} {name : String} {n : { n : Nat // n < UInt64.size }} :
    u64OfValue v name = .ok n ↔ v = .int n.1 := by
  unfold u64OfValue
  constructor
  · intro run
    split at run
    · cases run
    · rename_i k number
      split at run
      · cases run
        exact strictInt?_eq_some_iff.mp number
      · obtain ⟨_, _, run⟩ := ok_of_bind run
        cases run
    · obtain ⟨_, _, run⟩ := ok_of_bind run
      cases run
  · rintro rfl
    exact dif_pos n.2

namespace Wire

theorem built_eq_ok_iff {α : Type} {record : String} {r : Except Fault α} {a : α} :
    built record r = .ok a ↔ r = .ok a := by
  unfold built
  split
  · simp only [reduceCtorEq]
  · simp only [reduceCtorEq]
  · rfl

theorem built_word_eq_ok_iff {W : Type} {record name : String} {v : Value}
    {f : { n : Nat // n < UInt64.size } → W} {a : W} :
    built record ((u64OfValue v name).map f) = .ok a ↔ ∃ n, v = .int n.1 ∧ f n = a := by
  rw [built_eq_ok_iff]
  constructor
  · intro run
    obtain ⟨n, found, same⟩ := ok_of_map run
    exact ⟨n, u64OfValue_eq_ok_iff.mp found, same⟩
  · rintro ⟨n, same, rfl⟩
    rw [u64OfValue_eq_ok_iff.mpr same]
    rfl

theorem amount_eq_ok_iff {v : Value} {a : Amount} : amount v = .ok a ↔ v = .int a.val := by
  rw [amount, Amount.ofValue, built_word_eq_ok_iff]
  constructor
  · rintro ⟨n, same, rfl⟩
    exact same
  · exact fun same => ⟨⟨a.val, a.lt⟩, same, rfl⟩

theorem blockTime_eq_ok_iff {v : Value} {t : BlockTime} : blockTime v = .ok t ↔ v = .int t.val := by
  rw [blockTime, BlockTime.ofValue, built_word_eq_ok_iff]
  constructor
  · rintro ⟨n, same, rfl⟩
    exact same
  · exact fun same => ⟨⟨t.val, t.lt⟩, same, rfl⟩

theorem equal_envelopeVersion_iff {k : Int} : (Value.int k).equal envelopeVersion = true ↔ k = 1 := by
  rw [envelopeVersion, Value.equal_int, beq_iff_eq]

/-- The content of a record in the form of a schema. -/
def opened (s : Schema) (v : Value) (what : String) : Except Fault Value :=
  match s with
  | .v0 => openEnvelope v what
  | .v1 => .ok v

theorem opened_wrapped_eq_ok_iff {s : Schema} {content v : Value} {k : Int} (what : String) :
    opened s (wrapped s content (.int k)) what = .ok v ↔ (s = .v0 → k = 1) ∧ v = content := by
  cases s with
  | v0 =>
    simp only [opened, wrapped, openEnvelope_envelope, true_imp_iff]
    by_cases one : k = 1
    · rw [if_pos (equal_envelopeVersion_iff.mpr one), Except.ok.injEq]
      exact ⟨fun same => ⟨one, same.symm⟩, fun both => both.2.symm⟩
    · rw [if_neg fun same => one (equal_envelopeVersion_iff.mp same)]
      simp only [reduceCtorEq, one, false_and]
  | v1 =>
    simp only [opened, wrapped, Except.ok.injEq, reduceCtorEq, false_imp_iff, true_and]
    exact eq_comm

/-- Without envelopes there is one version, and with them the right one is asked for: so what is left
after both checks is the content under that version. -/
theorem unwraps_one_iff {s : Schema} {v content : Value} :
    Unwraps s v 1 content ↔ ∃ k, Unwraps s v k content ∧ (s = .v0 → k = 1) := by
  constructor
  · exact fun holds => ⟨1, holds, fun _ => rfl⟩
  · rintro ⟨k, holds, right⟩
    cases s with
    | v0 => exact right rfl ▸ holds
    | v1 => exact holds.1 ▸ holds

theorem ofRecord_untimed (s : Schema) (version : Value) :
    Timing.ofRecord s (wrapped s (.untimedRecord s) version) = (do
      let _ ← opened s (wrapped s (.untimedRecord s) version) "Timing"
      return .untimed) := by
  cases s with
  | v0 =>
    simp only [Timing.ofRecord, Timing.ofRecordV0, opened, wrapped, openEnvelope_envelope]
    split <;> rfl
  | v1 => rfl

theorem ofRecord_untimed_eq_ok_iff {s : Schema} {k : Int} {t : Timing} :
    Timing.ofRecord s (wrapped s (.untimedRecord s) (.int k)) = .ok t ↔ (s = .v0 → k = 1) ∧ t = .untimed := by
  rw [ofRecord_untimed]
  simp only [bind_eq_ok_iff, opened_wrapped_eq_ok_iff]
  constructor
  · rintro ⟨_, ⟨right, _⟩, same⟩
    cases same
    exact ⟨right, rfl⟩
  · rintro ⟨right, rfl⟩
    exact ⟨_, ⟨right, rfl⟩, rfl⟩

theorem ofRecord_timed (s : Schema) (data version : Value) :
    Timing.ofRecord s (wrapped s (.timedRecord s data) version) = (do
      let _ ← opened s (wrapped s (.timedRecord s data) version) "Timing"
      let d ← Schedule.ofRecord s data
      return .timed d) := by
  cases s with
  | v0 =>
    simp only [Timing.ofRecord, Timing.ofRecordV0, opened, wrapped, openEnvelope_envelope]
    split <;> rfl
  | v1 => rfl

theorem ofRecord_timed_eq_ok_iff {s : Schema} {data : Value} {k : Int} {t : Timing} :
    Timing.ofRecord s (wrapped s (.timedRecord s data) (.int k)) = .ok t ↔
      (s = .v0 → k = 1) ∧ ∃ d, Schedule.ofRecord s data = .ok d ∧ t = .timed d := by
  rw [ofRecord_timed]
  simp only [bind_eq_ok_iff, opened_wrapped_eq_ok_iff]
  constructor
  · rintro ⟨_, ⟨right, _⟩, d, read, same⟩
    cases same
    exact ⟨right, d, read, rfl⟩
  · rintro ⟨right, d, read, rfl⟩
    exact ⟨_, ⟨right, rfl⟩, d, read, rfl⟩

/-- The word in a scalar of a record. -/
def wordOf {W : Type} (read : Value → Except Fault W) (s : Schema) (v : Value) (name : String) : Except Fault W :=
  opened s v name >>= read

theorem wordOf_eq_ok_iff {W : Type} {read : Value → Except Fault W} {val : W → Nat}
    (reads : ∀ {v a}, read v = .ok a ↔ v = .int (val a)) {s : Schema} {n k : Int} {name : String} {a : W} :
    wordOf read s (wrapped s (.int n) (.int k)) name = .ok a ↔ (s = .v0 → k = 1) ∧ n = val a := by
  simp only [wordOf, bind_eq_ok_iff, opened_wrapped_eq_ok_iff, reads]
  constructor
  · rintro ⟨_, ⟨right, rfl⟩, word⟩
    exact ⟨right, Value.int.inj word⟩
  · rintro ⟨right, rfl⟩
    exact ⟨_, ⟨right, rfl⟩, rfl⟩

theorem ofRecord_schedule (s : Schema) (a b c d e version : Value) :
    Schedule.ofRecord s (wrapped s (.scheduleRecord s a b c d e) version) = (do
      let _ ← opened s (wrapped s (.scheduleRecord s a b c d e) version) "TimedData"
      let initialMinimumBalance ← wordOf amount s a "initial_minimum_balance"
      let cliffTime ← wordOf blockTime s b "cliff_time"
      let cliffAmount ← wordOf amount s c "cliff_amount"
      let vestingPeriod ← wordOf blockTime s d "vesting_period"
      let vestingIncrement ← wordOf amount s e "vesting_increment"
      return { initialMinimumBalance, cliffTime, cliffAmount, vestingPeriod, vestingIncrement }) := by
  simp only [wordOf, bind_assoc]
  cases s with
  | v0 =>
    simp only [Schedule.ofRecord, Schedule.ofRecordV0, opened, wrapped, openEnvelope_envelope]
    split <;> rfl
  | v1 => rfl

theorem ofRecord_schedule_eq_ok_iff {s : Schema} {a b c d e : Value} {k : Int} {r : Schedule} :
    Schedule.ofRecord s (wrapped s (.scheduleRecord s a b c d e) (.int k)) = .ok r ↔ (s = .v0 → k = 1) ∧
      wordOf amount s a "initial_minimum_balance" = .ok r.initialMinimumBalance ∧
      wordOf blockTime s b "cliff_time" = .ok r.cliffTime ∧ wordOf amount s c "cliff_amount" = .ok r.cliffAmount ∧
      wordOf blockTime s d "vesting_period" = .ok r.vestingPeriod ∧
      wordOf amount s e "vesting_increment" = .ok r.vestingIncrement := by
  rw [ofRecord_schedule]
  simp only [bind_eq_ok_iff, opened_wrapped_eq_ok_iff]
  constructor
  · rintro ⟨_, ⟨right, _⟩, _, ha, _, hb, _, hc, _, hd, _, he, same⟩
    cases same
    exact ⟨right, ha, hb, hc, hd, he⟩
  · rintro ⟨right, ha, hb, hc, hd, he⟩
    exact ⟨_, ⟨right, rfl⟩, _, ha, _, hb, _, hc, _, hd, _, he, rfl⟩

end Wire
end AccountInput
