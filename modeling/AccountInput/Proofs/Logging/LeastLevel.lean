import AccountInput.Proofs.Logging.JsonLine
import AccountInput.Proofs.Logging.Setup

namespace AccountInput
namespace Logging

/-- What may be given as a level: a name, known or not, or an integer, the truth values among them. -/
inductive IsLevel : Value → Prop where
  | name (s : String) : IsLevel (.text s)
  | code (c : ProblemCode) : IsLevel (.code c)
  | int (n : Int) : IsLevel (.int n)
  | truth (b : Bool) : IsLevel (.bool b)

/-- A record that is written once, to one target, from a level on, and not at all below it. -/
def WritesFrom (s : Logging) (least : Int) (target : LogTarget) (r : LogRecord) : Prop :=
  ∀ clock, if least ≤ r.level then ∃ line, s.log r clock = .ok [(target, line)] else s.log r clock = .ok []

variable {s : Logging} {c : Call} {level : Level} {r : LogRecord} {h : Handler} {message : List CodePoint} {clock : String}

theorem Call.exists_chooses (given : IsLevel c.request.level) : ∃ level, c.Chooses level := by
  unfold Call.Chooses
  generalize c.request.level = v at given ⊢
  cases given <;> exact ⟨_, rfl⟩

theorem shownExtra_of_nil (plain : r.extra = []) : r.shownExtra = .ok [] := by
  rw [LogRecord.shownExtra, plain]
  rfl

/-- A message alone always has a line. -/
theorem exists_line (text : r.text? = some message) (plain : r.extra = []) (form : LineForm) (clock : String) :
    ∃ line, r.line? form [] clock = some line := by
  have extra := shownExtra_of_nil plain
  cases form with
  | json =>
    refine (LogRecord.exists_jsonLine_iff_forms Fields.nodup_names_nil).mpr ⟨message, [], text, extra, ?_⟩
    refine (LogRecord.forall_mem_jsonFields_iff Fields.nodup_names_nil).mpr fun name v given _ => ?_
    rw [show Fields.get? [] name = none from rfl, Option.none_or, Option.or_none] at given
    -- what the record has of its own are texts
    have texts := (Fields.forall_mem_iff_get? (P := fun v => v.hasJsonKeys = true ∧ v.isJsonWorded = true)
      (LogRecord.nodup_names_ownFields r clock (CodePoint.written message))).mp
    refine texts ?_ name v given
    simp only [LogRecord.ownFields, List.forall_mem_cons, Value.hasForm_text, and_self, true_and]
    exact List.forall_mem_nil _
  | text coloured =>
    simp only [LogRecord.line?, LogRecord.textLine?, text, extra]
    exact ⟨_, rfl⟩

theorem refusal?_eq_none_iff (plain : r.extra = []) : refusal? r = none ↔ (Decimal.text? r.level).isSome = true := by
  rw [refusal?, plain]
  cases Decimal.text? r.level with
  | none => exact iff_of_false (Option.some_ne_none _) Bool.false_ne_true
  | some name => exact iff_of_true rfl rfl

/-- One handler at the library's level writes a message alone where its logger looks at it and it can be made. -/
theorem exists_log_iff (only : s.handlers = [h]) (same : h.level = s.level.toInt) (empty : s.context.fields = [])
    (own : isOwn s.loggers r.logger = true) (text : r.text? = some message) (plain : r.extra = []) (clock : String) :
    (∃ line, s.log r clock = .ok [(h.target, line)]) ↔ h.level ≤ r.level ∧ 0 < r.level ∧
      (h.level = 0 → Level.rootLevel ≤ r.level) ∧ (Decimal.text? r.level).isSome = true := by
  constructor
  · rintro ⟨line, written⟩
    rw [log] at written
    split at written
    · rename_i enabled
      obtain ⟨positive, passes⟩ := isEnabled_iff.mp enabled
      obtain ⟨reaches, above⟩ := (effectiveLevel_le_iff own positive).mp passes
      rw [← same] at reaches above
      split at written
      · cases written
      · rename_i made
        exact ⟨reaches, positive, above, (refusal?_eq_none_iff plain).mp made⟩
    · cases written
  · rintro ⟨reaches, positive, above, short⟩
    obtain ⟨line, formatted⟩ := exists_line text plain h.form clock
    rw [← empty] at formatted
    have passes : s.effectiveLevel r.logger ≤ r.level :=
      (effectiveLevel_le_iff own positive).mpr (same ▸ ⟨reaches, above⟩)
    exact ⟨_, (log_of_handler_iff only own passes (fun _ => reaches) formatted).mpr
      ⟨positive, (refusal?_eq_none_iff plain).mpr short⟩⟩

theorem log_of_below (own : isOwn s.loggers r.logger = true) (below : r.level < s.level.toInt) (clock : String) :
    s.log r clock = .ok [] := by
  rw [log, if_neg]
  intro enabled
  obtain ⟨positive, passes⟩ := isEnabled_iff.mp enabled
  have reaches := ((effectiveLevel_le_iff own positive).mp passes).1
  omega

theorem writesFrom_of_handler_iff (only : s.handlers = [h]) (same : h.level = s.level.toInt)
    (empty : s.context.fields = []) (own : isOwn s.loggers r.logger = true) (text : r.text? = some message)
    (plain : r.extra = []) : WritesFrom s h.level h.target r ↔
      (h.level ≤ r.level →
        0 < r.level ∧ (h.level = 0 → Level.rootLevel ≤ r.level) ∧ (Decimal.text? r.level).isSome = true) := by
  have written := exists_log_iff only same empty own text plain
  by_cases reaches : h.level ≤ r.level
  · constructor
    · intro writes _
      have once := writes ""
      rw [if_pos reaches] at once
      exact ((written "").mp once).2
    · intro needed clock
      rw [if_pos reaches]
      exact (written clock).mpr ⟨reaches, needed reaches⟩
  · refine iff_of_true (fun clock => ?_) (absurd · reaches)
    rw [if_neg reaches]
    exact log_of_below own (by omega) clock

/-- After any calls, the last of which keeps no handlers and is given a name or an integer as its level: exactly when a
record of a message alone is written to that call's target from that level on. A record that the level lets through
must have a positive level of not too many digits for its name, and where the level is zero it must not be below the
level of the root. -/
theorem writesFrom_level_iff (s : Logging) (calls : List Call) (c : Call) (r : LogRecord) (message : List CodePoint)
    (empty : s.context.fields = []) (given : IsLevel c.request.level) (fresh : c.request.keep = false)
    (own : isOwn s.loggers r.logger = true) (text : r.text? = some message) (plain : r.extra = []) :
    ∃ level, c.Chooses level ∧
      (WritesFrom (after s (calls ++ [c])) level.toInt c.request.target r ↔
        (level.toInt ≤ r.level →
          0 < r.level ∧ (level.toInt = 0 → Level.rootLevel ≤ r.level) ∧ (Decimal.text? r.level).isSome = true)) := by
  obtain ⟨level, chooses⟩ := Call.exists_chooses given
  refine ⟨level, chooses, ?_⟩
  have left := Call.perform_of_chooses chooses (after s calls)
  rw [fresh] at left
  have state := (after_last s calls (c := c) (List.forall_mem_nil _)).trans (congrArg Prod.snd left)
  have context : (after s calls).context.fields = [] := by rw [context_after, empty]
  rw [← loggers_after s calls] at own
  rw [state]
  exact writesFrom_of_handler_iff (h := c.handler level) rfl rfl context own text plain

/-- A message of a logger below the library's. -/
def wireRecord : LogRecord := { messageRecord 10 with logger := "ledger.wire" }

theorem writesFrom_level_debug :
    WritesFrom (after start ([textCall (.text "CRITICAL") 0, textCall .null 1] ++ [textCall (.text " debug") 2])) 10
      (.stream 2) wireRecord := by
  have own : isOwn start.loggers "ledger.wire" = true := isOwn_of_parts [] ['w', 'i', 'r', 'e'] (by decide)
  obtain ⟨level, chooses, exactly⟩ := writesFrom_level_iff start [textCall (.text "CRITICAL") 0, textCall .null 1]
    (textCall (.text " debug") 2) wireRecord [.char 'm'] rfl (.name " debug") rfl own rfl rfl
  have named : (textCall (.text " debug") 2).Chooses (.number 10) := congrArg Except.ok (by decide)
  obtain rfl : level = .number 10 := Except.ok.inj (chooses.symm.trans named)
  have few : 2 ≤ Decimal.digitLimit := by decide
  have short := Decimal.text?_of_lt (n := 10) few (by decide)
  exact exactly.mpr fun _ => ⟨by decide, nofun, Option.isSome_iff_exists.mpr ⟨_, short⟩⟩

/-- At the level zero a record of the level `DEBUG` is not written, though its level is above that. -/
theorem not_writesFrom_notset :
    (textCall (.text "NOTSET") 0).Chooses (.number 0) ∧
      ¬WritesFrom (after start [textCall (.text "NOTSET") 0]) 0 (.stream 0) (messageRecord 10) := by
  have chosen : (textCall (.text "NOTSET") 0).Chooses (.number 0) := congrArg Except.ok (by decide)
  refine ⟨chosen, fun writes => ?_⟩
  have left : (after start [textCall (.text "NOTSET") 0]).level = .number 0 := by decide
  have inherits := effectiveLevel_of_zero (congrArg Level.toInt left) rootName
  have once := writes ""
  rw [if_pos (by decide), log, if_neg fun enabled => ?_] at once
  · obtain ⟨line, written⟩ := once
    cases written
  · have passes := (isEnabled_iff.mp enabled).2
    rw [show (messageRecord 10).logger = rootName from rfl, inherits] at passes
    exact absurd passes (by decide)

end Logging
end AccountInput
