import AccountInput.Proofs.Value.Equal
import AccountInput.Proofs.Wire.Refusal

namespace AccountInput

/-- Whether every envelope among records names its version by an integer, of whatever size. -/
def Value.versionsWhole : Value → Bool
  | .envelope content version => version.int?.isSome && versionsWhole content
  | .timedRecord _ data => versionsWhole data
  | .scheduleRecord _ a b c d e =>
    versionsWhole a && versionsWhole b && versionsWhole c && versionsWhole d && versionsWhole e
  | _ => true

theorem Value.versionsWhole_envelope_iff {content version : Value} : (envelope content version).versionsWhole = true ↔
    version.int?.isSome = true ∧ content.versionsWhole = true := Bool.and_eq_true_iff

theorem Value.versionsWhole_scheduleRecord (s : Schema) (a b c d e : Value) :
    (scheduleRecord s a b c d e).versionsWhole =
      (a.versionsWhole && b.versionsWhole && c.versionsWhole && d.versionsWhole && e.versionsWhole) := rfl

/-- The record class of a schema around the bare numbers of a schedule. -/
def Schedule.bareRecord (d : Schedule) (s : Schema) : Value :=
  .scheduleRecord s (.int d.initialMinimumBalance.val) (.int d.cliffTime.val) (.int d.cliffAmount.val)
    (.int d.vestingPeriod.val) (.int d.vestingIncrement.val)

namespace Wire

/-- Reading a value gives timing whose record is that value, or fails as a problem with the wire format. -/
def ReadsClosed (s : Schema) (v : Value) : Prop :=
  (∃ t, Timing.ofRecord s v = .ok t ∧ (t.toRecord s).equal v = true) ∨
    ∃ f, Timing.ofRecord s v = .error f ∧ f.isWireFormat = true

/-- A content in an envelope whose version counts as the one version. -/
def Opens (v content : Value) : Prop :=
  ∃ version, v = .envelope content version ∧ version.equal envelopeVersion = true

theorem Opens.versionsWhole {v content : Value} (opens : Opens v content) (whole : v.versionsWhole = true) :
    content.versionsWhole = true := by
  obtain ⟨version, rfl, _⟩ := opens
  exact (Value.versionsWhole_envelope_iff.mp whole).2

/-- A version that counts as the one version is equal to it also the other way round. -/
theorem Opens.equal {v content other : Value} (opens : Opens v content) (whole : v.versionsWhole = true)
    (same : other.equal content = true) : (inEnvelope other).equal v = true := by
  obtain ⟨version, rfl, right⟩ := opens
  rw [Value.versionsWhole_envelope_iff] at whole
  obtain ⟨n, number⟩ := Option.isSome_iff_exists.mp whole.1
  rw [Value.equal_of_int? number rfl] at right
  rw [inEnvelope, Value.equal_envelope, same, Bool.true_and, Value.equal_of_int? rfl number]
  exact beq_iff_eq.mpr (beq_iff_eq.mp right).symm

/-- A record of the first schema with the scalars of a schedule. -/
def IsScheduleRecord (v : Value) (d : Schedule) : Prop :=
  ∃ a b c e f, Opens v (.scheduleRecord .v0 a b c e f) ∧ Opens a (.int d.initialMinimumBalance.val) ∧
    Opens b (.int d.cliffTime.val) ∧ Opens c (.int d.cliffAmount.val) ∧ Opens e (.int d.vestingPeriod.val) ∧
    Opens f (.int d.vestingIncrement.val)

theorem IsScheduleRecord.equal {v : Value} {d : Schedule} (record : IsScheduleRecord v d)
    (whole : v.versionsWhole = true) : (d.toRecord .v0).equal v = true := by
  obtain ⟨a, b, c, e, f, opens, ha, hb, hc, he, hf⟩ := record
  have inside := opens.versionsWhole whole
  simp only [Value.versionsWhole_scheduleRecord, Bool.and_eq_true] at inside
  obtain ⟨⟨⟨⟨wa, wb⟩, wc⟩, we⟩, wf⟩ := inside
  refine opens.equal whole ?_
  rw [Value.equal_scheduleRecord]
  simp only [Schedule.toScalar, ha.equal wa (Value.equal_int_self _), hb.equal wb (Value.equal_int_self _),
    hc.equal wc (Value.equal_int_self _), he.equal we (Value.equal_int_self _), hf.equal wf (Value.equal_int_self _)]
  rfl

/-- A value with a word under a name. -/
def HasWord (v : Value) (name : String) : Prop := ∃ n < UInt64.size, v.part name = .ok (.int (n : Nat))

/-- Reading parts in their order meets one that cannot be read, where those before it are words. -/
inductive Stumbles (v : Value) : List String → Prop
  | here {name : String} {names : List String} {f : Fault} (fails : v.part name = .error f) : Stumbles v (name :: names)
  | later {name : String} {names : List String} (word : HasWord v name) (rest : Stumbles v names) :
    Stumbles v (name :: names)

/-- A value with the words of a schedule under the names of its fields, of whatever class it is. -/
def HasWords (v : Value) (d : Schedule) : Prop :=
  v.part "initial_minimum_balance" = .ok (.int d.initialMinimumBalance.val) ∧
    v.part "cliff_time" = .ok (.int d.cliffTime.val) ∧ v.part "cliff_amount" = .ok (.int d.cliffAmount.val) ∧
    v.part "vesting_period" = .ok (.int d.vestingPeriod.val) ∧
    v.part "vesting_increment" = .ok (.int d.vestingIncrement.val)

theorem exists_amount_iff {v : Value} : (∃ a, amount v = .ok a) ↔ ∃ n < UInt64.size, v = .int (n : Nat) := by
  simp only [amount_eq_ok_iff]
  constructor
  · rintro ⟨a, rfl⟩
    exact ⟨a.val, a.lt, rfl⟩
  · rintro ⟨n, lt, rfl⟩
    exact ⟨⟨n, lt⟩, rfl⟩

theorem exists_blockTime_iff {v : Value} : (∃ t, blockTime v = .ok t) ↔ ∃ n < UInt64.size, v = .int (n : Nat) := by
  simp only [blockTime_eq_ok_iff]
  constructor
  · rintro ⟨t, rfl⟩
    exact ⟨t.val, t.lt, rfl⟩
  · rintro ⟨n, lt, rfl⟩
    exact ⟨⟨n, lt⟩, rfl⟩

/-- What keeps a part from being read is no problem of the library's own. -/
theorem not_isWireFormat_of_part {v : Value} {name : String} {f : Fault} (failed : v.part name = .error f) :
    f.isWireFormat = false := by
  unfold Value.part at failed
  split at failed <;> cases failed <;> rfl

theorem refusesFormat_part_iff {v : Value} {name : String} :
    RefusesFormat (v.part name) ↔ ∀ f, v.part name ≠ .error f := by
  refine ⟨fun only f failed => ?_, fun never f failed => absurd failed (never f)⟩
  cases (not_isWireFormat_of_part failed).symm.trans (only f failed)

/-- One step of the reading: a part, as a word of its kind, and what comes after. -/
theorem refusesFormat_step_iff {W R : Type} {number : Value → Except Fault W} {v : Value} {name : String}
    {names : List String} {rest : W → Except Fault R}
    (words : ∀ w, (∃ a, number w = .ok a) ↔ ∃ n < UInt64.size, w = .int (n : Nat))
    (refuses : ∀ w, RefusesFormat (number w)) (tail : ∀ a, RefusesFormat (rest a) ↔ ¬Stumbles v names) :
    RefusesFormat (v.part name >>= fun w => number w >>= rest) ↔ ¬Stumbles v (name :: names) := by
  have word (w : Value) (part : v.part name = .ok w) : HasWord v name ↔ ∃ a, number w = .ok a := by
    rw [words, HasWord]
    refine exists_congr fun n => and_congr_right fun _ => ?_
    rw [part]
    exact ⟨Except.ok.inj, congrArg _⟩
  constructor
  · intro only stumbles
    obtain ⟨readable, later⟩ := failsOnly_bind_iff.mp only
    cases stumbles with
    | here fails => exact refusesFormat_part_iff.mp readable _ fails
    | later held after =>
      obtain ⟨n, _, part⟩ := id held
      obtain ⟨a, number⟩ := (word _ part).mp held
      exact (tail a).mp ((failsOnly_bind_iff.mp (later _ part)).2 a number) after
  · intro never
    refine failsOnly_bind_iff.mpr ⟨refusesFormat_part_iff.mpr fun f failed => never (.here failed), fun w part => ?_⟩
    refine failsOnly_bind_iff.mpr ⟨refuses w, fun a number => (tail a).mpr fun after => ?_⟩
    exact never (.later ((word w part).mpr ⟨a, number⟩) after)

theorem ofRecordV1_schedule_refuses_iff (v : Value) :
    RefusesFormat (Schedule.ofRecordV1 v) ↔ ¬Stumbles v Value.scheduleFields := by
  have amounts (w : Value) := @exists_amount_iff w
  have times (w : Value) := @exists_blockTime_iff w
  refine refusesFormat_step_iff amounts amount_refuses fun _ => ?_
  refine refusesFormat_step_iff times blockTime_refuses fun _ => ?_
  refine refusesFormat_step_iff amounts amount_refuses fun _ => ?_
  refine refusesFormat_step_iff times blockTime_refuses fun _ => ?_
  refine refusesFormat_step_iff amounts amount_refuses fun _ => ?_
  exact iff_of_true (failsOnly_ok _) nofun

/-- The class of what is read is not looked at. -/
theorem ofRecordV1_schedule_eq_ok_iff {v : Value} {d : Schedule} :
    Schedule.ofRecordV1 v = .ok d ↔ HasWords v d := by
  unfold Schedule.ofRecordV1
  simp only [bind_eq_ok_iff, amount_eq_ok_iff, blockTime_eq_ok_iff]
  constructor
  · rintro ⟨_, a, _, rfl, _, b, _, rfl, _, c, _, rfl, _, e, _, rfl, _, f, _, rfl, same⟩
    cases same
    exact ⟨a, b, c, e, f⟩
  · rintro ⟨a, b, c, e, f⟩
    exact ⟨_, a, _, rfl, _, b, _, rfl, _, c, _, rfl, _, e, _, rfl, _, f, _, rfl, rfl⟩

theorem ofRecordV1_schedule_fails (v : Value) : FailsOnly (fun f => f.isWireFormat = true ∨
    ∃ name ∈ Value.scheduleFields, v.part name = .error f) (Schedule.ofRecordV1 v) := by
  have part {name : String} (field : name ∈ Value.scheduleFields) : FailsOnly (fun f => f.isWireFormat = true ∨
      ∃ name ∈ Value.scheduleFields, v.part name = .error f) (v.part name) :=
    fun f failed => .inr ⟨name, field, failed⟩
  have number {W : Type} {x : Except Fault W} (refuses : RefusesFormat x) : FailsOnly (fun f =>
      f.isWireFormat = true ∨ ∃ name ∈ Value.scheduleFields, v.part name = .error f) x :=
    refuses.mono fun _ => .inl
  unfold Schedule.ofRecordV1
  refine (part (by decide)).bind fun _ _ => (number (amount_refuses _)).bind fun _ _ => ?_
  refine (part (by decide)).bind fun _ _ => (number (blockTime_refuses _)).bind fun _ _ => ?_
  refine (part (by decide)).bind fun _ _ => (number (amount_refuses _)).bind fun _ _ => ?_
  refine (part (by decide)).bind fun _ _ => (number (blockTime_refuses _)).bind fun _ _ => ?_
  exact (part (by decide)).bind fun _ _ => (number (amount_refuses _)).bind fun _ _ => failsOnly_ok _

theorem equal_bareRecord (d : Schedule) (s t : Schema) : (d.bareRecord s).equal (d.bareRecord t) = (s == t) := by
  simp only [Schedule.bareRecord, Value.equal_scheduleRecord, Value.equal_int_self, Bool.and_true]

theorem hasWords_scheduleRecord_iff {s : Schema} {a b c e f : Value} {d : Schedule} :
    HasWords (.scheduleRecord s a b c e f) d ↔ Value.scheduleRecord s a b c e f = d.bareRecord s := by
  simp only [Schedule.bareRecord, Value.scheduleRecord.injEq, true_and]
  constructor
  · rintro ⟨⟨⟩, ⟨⟩, ⟨⟩, ⟨⟩, ⟨⟩⟩
    exact ⟨rfl, rfl, rfl, rfl, rfl⟩
  · rintro ⟨rfl, rfl, rfl, rfl, rfl⟩
    exact ⟨rfl, rfl, rfl, rfl, rfl⟩

/-- Of what holds the words of a schedule, only the record of its schema is equal to that record. -/
theorem equal_bareRecord_iff {v : Value} {d : Schedule} (words : HasWords v d) (s : Schema) :
    (d.bareRecord s).equal v = true ↔ v = d.bareRecord s := by
  cases v
  case scheduleRecord t a b c e f =>
    rw [hasWords_scheduleRecord_iff.mp words, equal_bareRecord, beq_iff_eq]
    constructor
    · rintro rfl
      rfl
    · rintro ⟨⟩
      rfl
  all_goals
    simp only [Schedule.bareRecord, Value.equal, Value.agrees, Value.leafEqual, Value.numeric?, Value.int?,
      reduceCtorEq, Bool.false_eq_true, beq_iff_eq]

theorem ofRecordV1_timedRecord_closed_iff (data : Value) : ReadsClosed .v1 (.timedRecord .v1 data) ↔
    ¬Stumbles data Value.scheduleFields ∧ ∀ d : Schedule, HasWords data d → data = d.bareRecord .v1 := by
  have run : Timing.ofRecord .v1 (.timedRecord .v1 data) = (Schedule.ofRecordV1 data).map .timed := rfl
  have equal (d : Schedule) (words : HasWords data d) :
      ((Timing.timed d).toRecord .v1).equal (.timedRecord .v1 data) = true ↔ data = d.bareRecord .v1 := by
    change ((Value.timedRecord .v1 (d.bareRecord .v1)).equal _) = true ↔ _
    rw [Value.equal_timedRecord, beq_self_eq_true, Bool.true_and, equal_bareRecord_iff words]
  rw [ReadsClosed, run, ← ofRecordV1_schedule_refuses_iff]
  cases outcome : Schedule.ofRecordV1 data with
  | error f =>
    have never (d : Schedule) : ¬HasWords data d := by
      rw [← ofRecordV1_schedule_eq_ok_iff, outcome]
      nofun
    constructor
    · rintro (⟨_, read, _⟩ | ⟨g, refused, format⟩)
      · cases read
      · cases refused
        exact ⟨failsOnly_error format, fun d words => absurd words (never d)⟩
    · rintro ⟨only, _⟩
      exact .inr ⟨f, rfl, only f rfl⟩
  | ok d =>
    have words := ofRecordV1_schedule_eq_ok_iff.mp outcome
    constructor
    · rintro (⟨t, read, same⟩ | ⟨_, refused, _⟩)
      · cases read
        refine ⟨failsOnly_ok d, fun d' words' => ?_⟩
        cases (ofRecordV1_schedule_eq_ok_iff.mpr words').symm.trans outcome
        exact (equal d words).mp same
      · cases refused
    · rintro ⟨_, only⟩
      exact .inl ⟨.timed d, rfl, (equal d words).mpr (only d words)⟩

theorem readsClosed_v1_of_not_timed {v : Value} (other : ∀ data, v ≠ .timedRecord .v1 data) : ReadsClosed .v1 v := by
  by_cases untimed : v = .untimedRecord .v1
  · subst untimed
    exact .inl ⟨.untimed, rfl, Value.equal_untimedRecord _ _⟩
  · have refused : Timing.ofRecordV1 v = .error (Problem.wireFormat "unknown v1 timing variant"
        [("got", .text v.typeName)]) := by
      unfold Timing.ofRecordV1
      split
      · exact absurd rfl untimed
      · exact absurd rfl (other _)
      · rfl
    exact .inr ⟨_, refused, Problem.isWireFormat_wireFormat _ (.cons rfl Problem.plain_nil)⟩

/-- Reading records of the second schema is closed but for those of timed accounts whose content, whatever its class,
has words under the names of a schedule without being the record of one, or has something that cannot be read under
one of them, and words under those before it. What then escapes, if anything does, is what that part fails with. -/
theorem ofRecord_v1_closed_iff (v : Value) :
    (ReadsClosed .v1 v ↔ ∀ data, v = .timedRecord .v1 data →
      ¬Stumbles data Value.scheduleFields ∧ ∀ d : Schedule, HasWords data d → data = d.bareRecord .v1) ∧
    ∀ f, Timing.ofRecord .v1 v = .error f → f.isWireFormat = true ∨
      ∃ data, v = .timedRecord .v1 data ∧ ∃ name ∈ Value.scheduleFields, data.part name = .error f := by
  by_cases timed : ∃ data, v = .timedRecord .v1 data
  · obtain ⟨data, rfl⟩ := timed
    refine ⟨?_, fun f failed => ?_⟩
    · rw [ofRecordV1_timedRecord_closed_iff]
      constructor
      · intro right data' same
        cases same
        exact right
      · intro right
        exact right data rfl
    · have only := (ofRecordV1_schedule_fails data).map Timing.timed
      exact (only f failed).imp_right fun part => ⟨data, rfl, part⟩
  · have other := not_exists.mp timed
    have closed := readsClosed_v1_of_not_timed other
    refine ⟨iff_of_true closed fun data same => absurd same (other data), fun f failed => ?_⟩
    rcases closed with ⟨_, read, _⟩ | ⟨g, refused, format⟩
    · cases read.symm.trans failed
    · cases refused.symm.trans failed
      exact .inl format

/-- A timed record around bare numbers of the first schema is read, and so is one around any object with numbers under
those names; one around a number escapes as another fault, and so does one around an object that fails to give one. -/
theorem ofRecord_v1_not_closed :
    (Timing.ofRecord .v1 (.timedRecord .v1 (.scheduleRecord .v0 (.int 5) (.int 10) (.int 2) (.int 3) (.int 1))) =
      .ok (.timed ⟨⟨5, by decide⟩, ⟨10, by decide⟩, ⟨2, by decide⟩, ⟨3, by decide⟩, ⟨1, by decide⟩⟩)) ∧
    ¬ReadsClosed .v1 (.timedRecord .v1 (.scheduleRecord .v0 (.int 5) (.int 10) (.int 2) (.int 3) (.int 1))) ∧
    Timing.ofRecord .v1 (.timedRecord .v1 (.int 5)) = .error .noAttribute ∧
    ¬ReadsClosed .v1 (.timedRecord .v1 (.int 5)) ∧
    ¬ReadsClosed .v1 (.timedRecord .v1 (.extended (.object ⟨"SimpleNamespace", none, none, .ok true,
      [("vesting_increment", .holds (.int 1)), ("vesting_period", .holds (.int 3)), ("cliff_amount", .holds (.int 2)),
        ("cliff_time", .holds (.int 10)), ("initial_minimum_balance", .holds (.int 5))]⟩))) ∧
    Timing.ofRecord .v1 (.timedRecord .v1 (.extended (.object ⟨"Lazy", none, none, .ok true,
      [("initial_minimum_balance", .raises .noKey)]⟩))) = .error (.incidental .noKey "") := by
  let d : Schedule := ⟨⟨5, by decide⟩, ⟨10, by decide⟩, ⟨2, by decide⟩, ⟨3, by decide⟩, ⟨1, by decide⟩⟩
  refine ⟨rfl, ?_, rfl, ?_, ?_, rfl⟩
  · intro closed
    cases (ofRecordV1_timedRecord_closed_iff _ |>.mp closed).2 d ⟨rfl, rfl, rfl, rfl, rfl⟩
  · intro closed
    exact (ofRecordV1_timedRecord_closed_iff _ |>.mp closed).1 (.here rfl)
  · intro closed
    cases (ofRecordV1_timedRecord_closed_iff _ |>.mp closed).2 d ⟨rfl, rfl, rfl, rfl, rfl⟩

end Wire
end AccountInput
