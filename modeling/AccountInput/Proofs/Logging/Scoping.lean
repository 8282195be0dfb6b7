import AccountInput.Logging.Program
import AccountInput.Proofs.Logging.Coercion
import AccountInput.Proofs.Logging.Fields
import AccountInput.Proofs.Text.Hex
import AccountInput.Proofs.Value.Data
import AccountInput.Proofs.Value.Truth

namespace AccountInput

namespace Fields

variable {fs gs : Fields}

/-- Bindings over what is bound, each with its value as a log line shows it: the later bindings win. -/
def onto (m : String → Option Value) (fs : Fields) : String → Option Value :=
  fs.foldl (fun m f => Function.update m f.1 f.2.logged.toOption) m

theorem get?_merge_logged (fs : Fields) (shown : gs.logged = .ok fs) (c : Fields) :
    (c.merge fs).get? = onto c.get? gs := by
  have each := mapM_eq_ok_iff.mp shown
  clear shown
  induction each generalizing c with
  | nil => rfl
  | @cons g f gs fs first _ ih =>
    obtain ⟨name, v⟩ := g
    obtain ⟨w, value, same⟩ := ok_of_bind first
    cases same
    have later := ih (c.set name w)
    rw [get?_set] at later
    rw [onto, List.foldl_cons, value]
    exact later

end Fields

namespace LogContext

variable {c c' : LogContext}

/-- What a change makes of the values under names. -/
def Change.onto (m : String → Option Value) : Change → String → Option Value
  | .bind fs => Fields.onto m fs
  | .unbind names => fun name => if name ∈ names then none else m name
  | .clear => fun _ => none

/-- What is bound in a block: what it found, under its identifier, and its own changes in their order. -/
def Block.bound (b : Block) : String → Option Value :=
  b.taken.foldl Change.onto <|
    match b.identifier with
    | none => b.found.fields.get?
    | some id => Function.update b.found.fields.get? traceName id.logged.toOption

theorem eq_of_bind {fs : Fields} (run : c.bind fs = .ok c') :
    c'.scopes = c.scopes ∧ c'.fields.get? = Fields.onto c.fields.get? fs := by
  obtain ⟨gs, shown, same⟩ := ok_of_bind run
  cases same
  exact ⟨rfl, Fields.get?_merge_logged gs shown c.fields⟩

theorem eq_of_apply {s : Change} (run : c.apply s = .ok c') :
    c'.scopes = c.scopes ∧ c'.fields.get? = s.onto c.fields.get? := by
  cases s with
  | bind fs => exact eq_of_bind run
  | unbind names =>
    cases run
    exact ⟨rfl, funext (Fields.get?_foldl_unset names c.fields)⟩
  | clear =>
    cases run
    exact ⟨rfl, rfl⟩

theorem enter_eq_ok_iff {id : Value} {random : Vector UInt8 TraceId.byteCount} :
    c.enter id (TraceId.ofBytes random.toList) = .ok c' ↔ (∃ given, id.truth = .ok given) ∧
      LogContext.bind { c with scopes := c.fields :: c.scopes } [(traceName, identifierOf id random)] = .ok c' := by
  rw [enter]
  simp only [bind_eq_ok_iff]
  constructor
  · rintro ⟨given, told, run⟩
    rw [Value.truth_eq_ok told] at run
    exact ⟨⟨given, told⟩, run⟩
  · rintro ⟨⟨given, told⟩, run⟩
    refine ⟨given, told, ?_⟩
    rw [Value.truth_eq_ok told]
    exact run

theorem eq_of_enter {id : Value} {random : Vector UInt8 TraceId.byteCount}
    (run : c.enter id (TraceId.ofBytes random.toList) = .ok c') : c'.scopes = c.fields :: c.scopes ∧
      c'.fields.get? = Function.update c.fields.get? traceName (identifierOf id random).logged.toOption :=
  eq_of_bind (enter_eq_ok_iff.mp run).2

/-- A change of which every value has a form in which a log line shows it. -/
def Change.IsShown : Change → Prop
  | .bind fs => ∀ f ∈ fs, ∃ w, f.2.logged = .ok w
  | .unbind _ | .clear => True

theorem exists_bind_iff {fs : Fields} : (∃ c', c.bind fs = .ok c') ↔ ∀ f ∈ fs, ∃ w, f.2.logged = .ok w := by
  have each : (∃ gs, fs.logged = .ok gs) ↔ ∀ f ∈ fs, ∃ w, f.2.logged = .ok w := by
    rw [Fields.logged, exists_mapM_iff]
    exact forall₂_congr fun f _ => exists_bind_ok_iff
  rw [← each]
  exact exists_bind_ok_iff

theorem exists_apply_iff {s : Change} : (∃ c', c.apply s = .ok c') ↔ s.IsShown := by
  cases s with
  | bind fs => exact exists_bind_iff
  | unbind names => exact iff_of_true ⟨_, rfl⟩ trivial
  | clear => exact iff_of_true ⟨_, rfl⟩ trivial

theorem exists_enter_iff {id : Value} {random : Vector UInt8 TraceId.byteCount} :
    (∃ c', c.enter id (TraceId.ofBytes random.toList) = .ok c') ↔
      (∃ given, id.truth = .ok given) ∧ ∃ w, (identifierOf id random).logged = .ok w := by
  simp only [enter_eq_ok_iff, exists_and_left]
  exact and_congr_right fun _ => exists_bind_iff.trans List.forall_mem_singleton

/-- A context in which every name stands once, among what is bound and in what each open scope will restore. -/
def Distinct (c : LogContext) : Prop := ∀ fs ∈ c.fields :: c.scopes, (fs.map (·.1)).Nodup

theorem Distinct.bind {fs : Fields} (distinct : c.Distinct) (run : c.bind fs = .ok c') : c'.Distinct := by
  obtain ⟨gs, _, same⟩ := ok_of_bind run
  cases same
  obtain ⟨fields, scopes⟩ := List.forall_mem_cons.mp distinct
  exact List.forall_mem_cons.mpr ⟨Fields.nodup_names_merge fields gs, scopes⟩

theorem Distinct.apply {s : Change} (distinct : c.Distinct) (run : c.apply s = .ok c') : c'.Distinct := by
  obtain ⟨fields, scopes⟩ := List.forall_mem_cons.mp distinct
  cases s with
  | bind fs => exact distinct.bind run
  | unbind names =>
    cases run
    exact List.forall_mem_cons.mpr ⟨Fields.nodup_names_foldl_unset fields names, scopes⟩
  | clear =>
    cases run
    exact List.forall_mem_cons.mpr ⟨List.nodup_nil, scopes⟩

theorem Distinct.enter {id : Value} {fresh : String} (distinct : c.Distinct) (run : c.enter id fresh = .ok c') :
    c'.Distinct := by
  have opened : Distinct { c with scopes := c.fields :: c.scopes } :=
    List.forall_mem_cons.mpr ⟨distinct _ List.mem_cons_self, distinct⟩
  obtain ⟨_, _, run⟩ := ok_of_bind run
  exact opened.bind run

theorem Distinct.exit (distinct : c.Distinct) : c.exit.Distinct := by
  rw [LogContext.exit]
  split
  · exact distinct
  · rename_i found outer inside
    rw [Distinct, inside] at distinct
    exact (List.forall_mem_cons.mp distinct).2

theorem isWellFormed_ofBytes (random : Vector UInt8 TraceId.byteCount) :
    TraceId.isWellFormed (TraceId.ofBytes random.toList) = true := by
  have whole : random.toList.take TraceId.byteCount = random.toList := List.take_of_length_le random.length_toList.le
  have digits : ∀ d < 16, ((Nat.digitChar d).isDigit || ('a' ≤ Nat.digitChar d && Nat.digitChar d ≤ 'f')) = true := by
    decide
  rw [TraceId.ofBytes, whole, TraceId.isWellFormed, Bool.and_eq_true, List.all_eq_true]
  constructor
  · rw [Hex.text, String.length_ofList, Hex.length_encode, random.length_toList]
    rfl
  · intro c member
    rw [Hex.text, String.toList_ofList, Hex.encode] at member
    obtain ⟨b, _, written⟩ := List.mem_flatMap.mp member
    simp only [Hex.ofByte, List.mem_cons, List.not_mem_nil, or_false] at written
    rcases written with rfl | rfl
    · exact digits _ (Nat.mod_lt _ (by decide))
    · exact digits _ (Nat.mod_lt _ (by decide))

/-- An identifier is made up where none is given, or one that counts as none. -/
theorem identifierOf_cases (id : Value) (random : Vector UInt8 TraceId.byteCount) :
    (¬id.IsFalsy ∧ identifierOf id random = id) ∨
      (id.IsFalsy ∧ ∃ t, identifierOf id random = .text t ∧ TraceId.isWellFormed t = true) := by
  rw [← Value.isTruthy_eq_false_iff, identifierOf]
  cases id.isTruthy with
  | true => exact .inl ⟨Bool.noConfusion, rfl⟩
  | false => exact .inr ⟨rfl, _, rfl, isWellFormed_ofBytes random⟩

namespace Run

variable {r r' : Run}

/-- The frames of a run in which every open scope will restore what it found, where that is what was bound in the
block around it. -/
def Framed : List Fields → Block → List Frame → Prop
  | _, _, [] => True
  | scopes, b, .attempt _ :: frames => Framed scopes b frames
  | scopes, b, .scope outer _ :: frames =>
    scopes = b.found.fields :: b.found.scopes ∧ b.found.fields.get? = outer.bound ∧ Framed b.found.scopes outer frames

/-- What holds at every step of a run. -/
structure Sound (r : Run) : Prop where
  bound : r.context.fields.get? = r.block.bound
  framed : Framed r.context.scopes r.block r.frames

theorem Framed.congr {scopes : List Fields} {b b' : Block} {frames : List Frame} (framed : Framed scopes b frames)
    (found : b'.found = b.found) : Framed scopes b' frames := by
  induction frames with
  | nil => trivial
  | cons frame frames ih =>
    cases frame with
    | attempt later => exact ih framed
    | scope outer later =>
      rw [Framed, found]
      exact framed

theorem sound_start (c : LogContext) (program : List Code) : (start c program).Sound := ⟨rfl, trivial⟩

theorem Sound.execute (sound : r.Sound) (code : Code) : (r.execute code).Sound := by
  obtain ⟨bound, framed⟩ := sound
  cases code with
  | change s =>
    rw [Run.execute]
    split
    · rename_i c run
      obtain ⟨scopes, fields⟩ := eq_of_apply run
      constructor
      · dsimp only
        rw [fields, bound, Block.bound, Block.bound, List.foldl_append]
        rfl
      · dsimp only
        rw [scopes]
        exact framed.congr rfl
    · exact ⟨bound, framed⟩
  | fail f => exact ⟨bound, framed⟩
  | attempt body => exact ⟨bound, framed⟩
  | scope id random body =>
    rw [Run.execute]
    split
    · rename_i c run
      obtain ⟨scopes, fields⟩ := eq_of_enter run
      exact ⟨fields, scopes, bound, framed⟩
    · exact ⟨bound, framed⟩

theorem Sound.leave (sound : r.Sound) (left : r.leave = some r') : r'.Sound := by
  obtain ⟨c, b, frames, rest, failure⟩ := r
  obtain ⟨bound, framed⟩ := sound
  cases frames with
  | nil => cases left
  | cons frame frames =>
    cases frame with
    | attempt later =>
      cases left
      exact ⟨bound, framed⟩
    | scope outer later =>
      cases left
      obtain ⟨scopes, there, framed⟩ := framed
      -- what was bound in the scope is gone, and what it found is what the block around it had bound
      have restored : c.exit = b.found := by rw [exit, show c.scopes = _ from scopes]
      constructor
      · dsimp only
        rw [restored, there]
      · dsimp only
        rw [restored]
        exact framed

/-- What every part of a program and every end of one preserves holds at every step. -/
theorem after_induction {P : Run → Prop} (rest : ∀ (r : Run) later, P r → P { r with rest := later })
    (execute : ∀ (r : Run) code, P r → P (r.execute code)) (leave : ∀ (r r' : Run), P r → r.leave = some r' → P r')
    (holds : P r) (n : Nat) : P (r.after n) := by
  induction n generalizing r with
  | zero => exact holds
  | succ n ih =>
    rw [after]
    split
    · exact holds
    · rename_i step
      refine ih ?_
      rw [next] at step
      split at step
      · cases step
        exact execute _ _ (rest r _ holds)
      · exact leave r _ holds step

theorem Sound.after (sound : r.Sound) (n : Nat) : (r.after n).Sound :=
  after_induction (fun _ _ sound => ⟨sound.bound, sound.framed⟩) (fun _ code sound => sound.execute code)
    (fun _ _ sound left => sound.leave left) sound n

/-- Where every name stands once at the start, so it does at every step. -/
theorem distinct_after (distinct : r.context.Distinct) (n : Nat) : (r.after n).context.Distinct := by
  refine after_induction (P := fun r => r.context.Distinct) (fun _ _ distinct => distinct) ?_ ?_ distinct n
  · intro r code distinct
    cases code with
    | change s =>
      rw [execute]
      split
      · rename_i run
        exact distinct.apply run
      · exact distinct
    | scope id random body =>
      rw [execute]
      split
      · rename_i run
        exact distinct.enter run
      · exact distinct
    | fail f => exact distinct
    | attempt body => exact distinct
  · intro r r' distinct left
    rw [leave] at left
    split at left
    · cases left
    · cases left
      exact distinct.exit
    · cases left
      exact distinct

/-- Whether a run comes to another one. -/
def Reaches (r r' : Run) : Prop := ∃ n, r.after n = r'

theorem Reaches.refl (r : Run) : r.Reaches r := ⟨0, rfl⟩

theorem Reaches.head {r'' : Run} (step : r.next = some r') (later : r'.Reaches r'') : r.Reaches r'' := by
  obtain ⟨n, run⟩ := later
  refine ⟨n + 1, ?_⟩
  rw [Run.after, step]
  exact run

theorem Reaches.trans {r'' : Run} (first : r.Reaches r') (second : r'.Reaches r'') : r.Reaches r'' := by
  obtain ⟨n, run⟩ := first
  induction n generalizing r with
  | zero =>
    cases run
    exact second
  | succ n ih =>
    rw [after] at run
    split at run
    · cases run
      exact second
    · rename_i step
      exact .head step (ih run)

/-- A run that has come to some code, or fails there, under given frames and scopes. -/
structure ComesTo (r : Run) (frames : List Frame) (scopes : List Fields) (rest : List Code) : Prop where
  frames : r.frames = frames
  scopes : r.context.scopes = scopes
  rest : r.failure = none → r.rest = rest

/-- Whether code that has been started comes to its end wherever it stands. -/
def Completes (body : List Code) : Prop :=
  ∀ c b frames, ∃ r', Reaches ⟨c, b, frames, body, none⟩ r' ∧ r'.ComesTo frames c.scopes []

theorem ComesTo.next_eq_leave {frames : List Frame} {scopes : List Fields} (there : r.ComesTo frames scopes []) :
    r.next = r.leave := by
  rw [Run.next]
  split
  · rename_i succeeded more
    cases more.symm.trans (there.rest succeeded)
  · rfl

/-- A scope, however it is left, leaves the context that it found. -/
theorem reaches_after_scope {body : List Code} (completes : Completes body) (c : LogContext) (b : Block)
    (frames : List Frame) (id : Value) (random : Vector UInt8 TraceId.byteCount) (later : List Code) :
    ∃ failure, Reaches ⟨c, b, frames, .scope id random body :: later, none⟩ ⟨c, b, frames, later, failure⟩ := by
  cases run : c.enter id (TraceId.ofBytes random.toList) with
  | error f =>
    refine ⟨some f, .head ?_ (.refl _)⟩
    simp only [next, execute, run, failing]
  | ok inner =>
    obtain ⟨scopes, _⟩ := eq_of_enter run
    obtain ⟨r', ended, there⟩ := completes inner ⟨c, some (identifierOf id random), []⟩ (.scope b later :: frames)
    refine ⟨r'.failure, .head ?_ (ended.trans (.head (there.next_eq_leave.trans ?_) (.refl _)))⟩
    · simp only [next, execute, run]
    · rw [leave, there.frames]
      dsimp only
      rw [exit, there.scopes, scopes]

theorem exists_reaches_later {code : Code} (c : LogContext) (b : Block) (frames : List Frame) (later : List Code)
    (bodies : ∀ body, (∃ id random, code = .scope id random body) ∨ code = .attempt body → Completes body) :
    ∃ r', Reaches ⟨c, b, frames, code :: later, none⟩ r' ∧ r'.ComesTo frames c.scopes later := by
  cases code with
  | change s =>
    refine ⟨_, .head rfl (.refl _), ?_⟩
    rw [execute]
    split
    · rename_i run
      exact ⟨rfl, (eq_of_apply run).1, fun _ => rfl⟩
    · exact ⟨rfl, rfl, nofun⟩
  | fail f => exact ⟨_, .head rfl (.refl _), rfl, rfl, nofun⟩
  | scope id random body =>
    obtain ⟨failure, left⟩ := reaches_after_scope (bodies body (.inl ⟨id, random, rfl⟩)) c b frames id random later
    exact ⟨_, left, rfl, rfl, fun _ => rfl⟩
  | attempt body =>
    obtain ⟨r', ended, there⟩ := bodies body (.inr rfl) c b (.attempt later :: frames)
    have left : r'.next = some ⟨r'.context, r'.block, frames, later, none⟩ := by
      rw [there.next_eq_leave, leave, there.frames]
    exact ⟨_, .head rfl (ended.trans (.head left (.refl _))), rfl, there.scopes, fun _ => rfl⟩

theorem completes : (body : List Code) → Completes body
  | [] => fun c b frames => ⟨_, .refl _, rfl, rfl, fun _ => rfl⟩
  | code :: later => fun c b frames => by
    have bodies : ∀ body, (∃ id random, code = .scope id random body) ∨ code = .attempt body → Completes body := by
      rintro body (⟨id, random, rfl⟩ | rfl)
      · exact completes body
      · exact completes body
    obtain ⟨r', first, there⟩ := exists_reaches_later c b frames later bodies
    cases failed : r'.failure with
    -- a failure ends the code there, whatever is left of it
    | some f => exact ⟨r', first, there.frames, there.scopes, fun none => nomatch failed.symm.trans none⟩
    | none =>
      obtain ⟨r'', second, ended⟩ := completes later r'.context r'.block frames
      have same : r' = ⟨r'.context, r'.block, frames, later, none⟩ := by
        rw [← there.frames, ← there.rest failed, ← failed]
      exact ⟨r'', first.trans (same ▸ second), ended.frames, ended.scopes.trans there.scopes, ended.rest⟩

theorem exists_next_change_iff (c : LogContext) (b : Block) (frames : List Frame) (s : Change) (later : List Code) :
    (∃ c', next ⟨c, b, frames, .change s :: later, none⟩ =
      some ⟨c', { b with taken := b.taken ++ [s] }, frames, later, none⟩) ↔ s.IsShown := by
  rw [← exists_apply_iff]
  simp only [next, execute]
  cases run : c.apply s with
  | ok c' => exact iff_of_true ⟨c', rfl⟩ ⟨c', rfl⟩
  | error f =>
    refine iff_of_false ?_ nofun
    rintro ⟨c', same⟩
    cases congrArg Run.failure (Option.some.inj same)

theorem exists_next_scope_iff (c : LogContext) (b : Block) (frames : List Frame) (id : Value) (random : Vector UInt8 TraceId.byteCount)
    (body later : List Code) : (∃ c', next ⟨c, b, frames, .scope id random body :: later, none⟩ =
      some ⟨c', ⟨c, some (identifierOf id random), []⟩, .scope b later :: frames, body, none⟩) ↔
        (∃ given, id.truth = .ok given) ∧ ∃ w, (identifierOf id random).logged = .ok w := by
  rw [← exists_enter_iff]
  simp only [next, execute]
  cases run : c.enter id (TraceId.ofBytes random.toList) with
  | ok c' => exact iff_of_true ⟨c', rfl⟩ ⟨c', rfl⟩
  | error f =>
    refine iff_of_false ?_ nofun
    rintro ⟨c', same⟩
    cases congrArg Run.failure (Option.some.inj same)

/-- At every step of every program, what is bound is what the innermost open block found, under its identifier and
with its own changes; every change is made, and every scope is opened, of which the values can be shown and the
identifier can tell whether it is one; and from before a scope, wherever it stands, a program comes to what follows it with the very context that the scope found, be
it with a failure or without one. The identifier is the one that is given, or else twelve hexadecimal digits; and what
a value is bound as depends on its kind alone. -/
theorem context_scoped :
    (∀ (c : LogContext) (program : List Code) (n : Nat) (name : String),
      ((start c program).after n).context.fields.get? name = ((start c program).after n).block.bound name) ∧
    (∀ (c : LogContext) (b : Block) (frames : List Frame) (later : List Code),
      (∀ s : Change, (∃ c', next ⟨c, b, frames, .change s :: later, none⟩ =
        some ⟨c', { b with taken := b.taken ++ [s] }, frames, later, none⟩) ↔ s.IsShown) ∧
      ∀ (id : Value) (random : Vector UInt8 TraceId.byteCount) (body : List Code),
        ((∃ c', next ⟨c, b, frames, .scope id random body :: later, none⟩ =
          some ⟨c', ⟨c, some (identifierOf id random), []⟩, .scope b later :: frames, body, none⟩) ↔
            (∃ given, id.truth = .ok given) ∧ ∃ w, (identifierOf id random).logged = .ok w) ∧
        ∃ n failure, after ⟨c, b, frames, .scope id random body :: later, none⟩ n =
          ⟨c, b, frames, later, failure⟩) ∧
    (∀ (id : Value) (random : Vector UInt8 TraceId.byteCount),
      (¬id.IsFalsy ∧ identifierOf id random = id) ∨
        (id.IsFalsy ∧ ∃ t, identifierOf id random = .text t ∧ TraceId.isWellFormed t = true)) ∧
    ∀ v w : Value, v.logged = .ok w ↔ v.LoggedAs w := by
  refine ⟨?_, ?_, identifierOf_cases, fun _ _ => Value.logged_eq_ok_iff⟩
  · intro c program n name
    rw [((sound_start c program).after n).bound]
  · intro c b frames later
    refine ⟨fun s => exists_next_change_iff c b frames s later, fun id random body => ?_⟩
    obtain ⟨failure, n, run⟩ := reaches_after_scope (completes body) c b frames id random later
    exact ⟨exists_next_scope_iff c b frames id random body later, n, failure, run⟩

end Run
end LogContext
end AccountInput
