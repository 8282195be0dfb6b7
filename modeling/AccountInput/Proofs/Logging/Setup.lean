import AccountInput.Logging.Setup
import AccountInput.Proofs.Logging.Hierarchy
import AccountInput.Proofs.Outcome

namespace AccountInput
namespace Logging

variable {s s' : Logging} {c : Call} {level : Level}

theorem foldl_erase_self (hs : List Handler) : hs.foldl List.erase hs = [] := by
  induction hs with
  | nil => rfl
  | cons h hs ih => rw [List.foldl_cons, List.erase_cons_head, ih]

theorem run_bind {α β : Type} {x : Changes α} {f : α → Changes β} {a : α} (first : x.run.run s = (.ok a, s')) :
    (x >>= f).run.run s = (f a).run.run s' := by
  rw [ExceptT.run_bind, StateT.run_bind, first]
  rfl

theorem run_removeAll (hs : List Handler) (s : Logging) :
    (removeAll hs).run.run s = (.ok (), { s with handlers := hs.foldl List.erase s.handlers }) := by
  induction hs generalizing s with
  | nil => rfl
  | cons h hs ih =>
    have later := ih { s with handlers := s.handlers.erase h }
    rw [removeAll, List.forIn_cons]
    exact later

namespace Call

/-- A call that comes to a level, and one that fails for want of one. -/
def Chooses (c : Call) (level : Level) : Prop := Level.ofValue c.request.level = .ok level

def FailsWith (c : Call) (f : Fault) : Prop := Level.ofValue c.request.level = .error f

theorem perform_of_chooses (chooses : c.Chooses level) (s : Logging) : c.perform s =
    (.ok (), { s with level, handlers := (if c.request.keep then s.handlers else []) ++ [c.handler level] }) := by
  rw [perform, changes, show Level.ofValue c.request.level = _ from chooses]
  cases c.request.keep with
  | true => rfl
  | false =>
    have removed := run_removeAll s.handlers { s with level }
    rw [foldl_erase_self] at removed
    exact run_bind (s := { s with level }) removed

theorem perform_of_failsWith {f : Fault} (fails : c.FailsWith f) (s : Logging) : c.perform s = (.error f, s) := by
  rw [perform, changes, show Level.ofValue c.request.level = _ from fails]
  rfl

/-- Change by change, a call does what the program's own step does at once. -/
theorem perform_eq_configure (c : Call) (s : Logging) : c.perform s =
    match s.configure c.env c.request with
    | .ok s' => (.ok (), s')
    | .error f => (.error f, s) := by
  cases chosen : Level.ofValue c.request.level with
  | error f =>
    rw [perform_of_failsWith chosen, configure, chosen]
    rfl
  | ok level =>
    rw [perform_of_chooses chosen, configure, chosen]
    rfl

end Call

theorem after_cons (s : Logging) (c : Call) (calls : List Call) :
    after s (c :: calls) = after (c.perform s).2 calls := rfl

theorem after_append (s : Logging) (before later : List Call) :
    after s (before ++ later) = after (after s before) later := List.foldl_append

/-- Calls leave alone what neither the level nor the handlers make a difference to. -/
theorem kept_after {α : Type} {part : Logging → α}
    (keeps : ∀ (s : Logging) (level : Level) (handlers : List Handler), part { s with level, handlers } = part s)
    (s : Logging) (calls : List Call) : part (after s calls) = part s := by
  induction calls generalizing s with
  | nil => rfl
  | cons c calls ih =>
    rw [after_cons, ih]
    cases chosen : Level.ofValue c.request.level with
    | error f => rw [Call.perform_of_failsWith chosen]
    | ok level => rw [Call.perform_of_chooses chosen, keeps]

theorem context_after (s : Logging) (calls : List Call) : (after s calls).context = s.context :=
  kept_after (fun _ _ _ => rfl) s calls

theorem loggers_after (s : Logging) (calls : List Call) : (after s calls).loggers = s.loggers :=
  kept_after (fun _ _ _ => rfl) s calls

/-- Calls that fail leave the state as it is. -/
theorem after_of_fail (s : Logging) {calls : List Call} (fail : ∀ c ∈ calls, ∃ f, c.FailsWith f) :
    after s calls = s := by
  induction calls with
  | nil => rfl
  | cons c calls ih =>
    obtain ⟨⟨f, fails⟩, others⟩ := List.forall_mem_cons.mp fail
    rw [after_cons, Call.perform_of_failsWith fails]
    exact ih others

/-- After the last call that chooses a level, the state is as that call has left it. -/
theorem after_last (s : Logging) (before : List Call) {later : List Call}
    (fail : ∀ d ∈ later, ∃ f, d.FailsWith f) :
    after s (before ++ c :: later) = (c.perform (after s before)).2 := by
  rw [after_append, after_cons, after_of_fail _ fail]

variable {r : LogRecord} {h : Handler} {clock line : String}

theorem isEnabled_iff : s.isEnabled r.logger r.level = true ↔ 0 < r.level ∧ s.effectiveLevel r.logger ≤ r.level := by
  rw [isEnabled, Bool.and_eq_true, decide_eq_true_iff, decide_eq_true_iff]

theorem lines_of_handler (only : s.handlers = [h]) (own : isOwn s.loggers r.logger = true) (reaches : h.level ≤ r.level)
    (formatted : r.line? h.form s.context.fields clock = some line) :
    s.lines r clock = [(h.target, line ++ "\n")] := by
  have reached : s.handlersOf r.logger = [h] := by rw [handlersOf, if_pos own, only]
  have passed : decide (h.level ≤ r.level) = true := decide_eq_true reaches
  rw [lines, reached]
  simp only [List.filter_cons, passed, if_true, List.filter_nil, List.map_cons, List.map_nil, formatted]
  rfl

/-- One handler writes a record that its logger and the handler let through and that has a line, if and only if the level
is positive and the record can be made. -/
theorem log_of_handler_iff (only : s.handlers = [h]) (own : isOwn s.loggers r.logger = true)
    (passes : s.effectiveLevel r.logger ≤ r.level) (reaches : 0 < r.level → h.level ≤ r.level)
    (formatted : r.line? h.form s.context.fields clock = some line) :
    s.log r clock = .ok [(h.target, line ++ "\n")] ↔ 0 < r.level ∧ refusal? r = none := by
  rw [log]
  split
  · rename_i enabled
    have positive := (isEnabled_iff.mp enabled).1
    rw [lines_of_handler only own (reaches positive) formatted]
    cases refusal? r with
    | some f => exact iff_of_false nofun nofun
    | none => exact iff_of_true rfl ⟨positive, rfl⟩
  · rename_i ignored
    refine iff_of_false nofun fun both => ignored (isEnabled_iff.mpr ⟨both.1, passes⟩)

/-- The library's loggers go by the level of the library, or by that of the root where it is zero. -/
theorem effectiveLevel_le_iff (own : isOwn s.loggers r.logger = true) (positive : 0 < r.level) :
    s.effectiveLevel r.logger ≤ r.level ↔
      s.level.toInt ≤ r.level ∧ (s.level.toInt = 0 → Level.rootLevel ≤ r.level) := by
  rw [effectiveLevel]
  by_cases zero : s.level.toInt = 0
  · rw [if_neg fun both => both.2 zero]
    exact ⟨fun passes => ⟨by omega, fun _ => passes⟩, fun both => both.2 zero⟩
  · rw [if_pos ⟨own, zero⟩]
    exact ⟨fun passes => ⟨passes, (absurd · zero)⟩, And.left⟩

theorem effectiveLevel_of_zero (zero : s.level.toInt = 0) (name : String) : s.effectiveLevel name = Level.rootLevel := by
  rw [effectiveLevel, if_neg fun both => both.2 zero]

/-- A call for lines of text on a stream. -/
def textCall (level : Value) (stream : Nat) : Call := ⟨[], ⟨.bool false, level, .stream stream, .no, false⟩⟩

/-- A message of the library's logger. -/
def messageRecord (level : Int) : LogRecord where
  logger := rootName
  level := level
  message := .text "m"
  args := []
  extra := []
  failure := none

end Logging
end AccountInput
