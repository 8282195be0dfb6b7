import AccountInput.Fault
import Mathlib.Data.List.Forall2

namespace AccountInput

variable {ε α β : Type}

theorem ok_of_bind {x : Except ε α} {f : α → Except ε β} {b : β} (run : x >>= f = .ok b) :
    ∃ a, x = .ok a ∧ f a = .ok b := by
  cases x with
  | error e => cases run
  | ok a => exact ⟨a, rfl, run⟩

theorem ok_of_map {x : Except ε α} {f : α → β} {b : β} (run : x.map f = .ok b) :
    ∃ a, x = .ok a ∧ f a = b := by
  cases x with
  | error e => cases run
  | ok a => exact ⟨a, rfl, Except.ok.inj run⟩

/-- Of two steps there is a result if each has one, where the second has one whatever the first gives, or never. -/
theorem isSome_bind {o : Option α} {f : α → Option β} {b : Bool} (second : ∀ a, (f a).isSome = b) :
    (o >>= f).isSome = (o.isSome && b) := by
  cases o with
  | none => rfl
  | some a => exact second a

theorem isSome_last (o : Option α) (f : α → β) : (o >>= fun a => pure (f a)).isSome = o.isSome := by
  cases o <;> rfl

theorem isSome_mapM {f : α → Option β} (xs : List α) : (xs.mapM f).isSome = xs.all fun x => (f x).isSome := by
  induction xs with
  | nil => rfl
  | cons x xs ih =>
    rw [List.mapM_cons, List.all_cons, ← ih]
    exact isSome_bind fun y => isSome_last _ _

theorem toOption_eq_some_iff {x : Except ε α} {a : α} : x.toOption = some a ↔ x = .ok a := by
  cases x with
  | error e => exact iff_of_false nofun nofun
  | ok b => simp only [Except.toOption, Option.some.injEq, Except.ok.injEq]

theorem bind_eq_ok_iff {x : Except ε α} {f : α → Except ε β} {b : β} :
    x >>= f = .ok b ↔ ∃ a, x = .ok a ∧ f a = .ok b := by
  refine ⟨ok_of_bind, ?_⟩
  rintro ⟨a, rfl, run⟩
  exact run

theorem bind_eq_error_iff {x : Except ε α} {f : α → Except ε β} {e : ε} :
    x >>= f = .error e ↔ x = .error e ∨ ∃ a, x = .ok a ∧ f a = .error e := by
  cases x with
  | error d =>
    constructor
    · intro failed
      cases failed
      exact .inl rfl
    · rintro (failed | ⟨_, done, _⟩)
      · cases failed
        rfl
      · cases done
  | ok a =>
    refine ⟨fun run => .inr ⟨a, rfl, run⟩, ?_⟩
    rintro (failed | ⟨_, done, run⟩)
    · cases failed
    · cases done
      exact run

theorem mapM_eq_ok_iff {f : α → Except ε β} {xs : List α} {ys : List β} :
    xs.mapM f = .ok ys ↔ List.Forall₂ (fun x y => f x = .ok y) xs ys := by
  induction xs generalizing ys with
  | nil =>
    rw [List.mapM_nil, List.forall₂_nil_left_iff]
    exact ⟨fun same => (Except.ok.inj same).symm, fun same => congrArg Except.ok same.symm⟩
  | cons x xs ih =>
    simp only [List.mapM_cons, bind_eq_ok_iff, List.forall₂_cons_left_iff, ih]
    constructor
    · rintro ⟨y, first, zs, rest, same⟩
      exact ⟨y, zs, first, rest, (Except.ok.inj same).symm⟩
    · rintro ⟨y, zs, first, rest, rfl⟩
      exact ⟨y, first, zs, rest, rfl⟩

theorem exists_mapM_iff {f : α → Except ε β} {xs : List α} :
    (∃ ys, xs.mapM f = .ok ys) ↔ ∀ x ∈ xs, ∃ y, f x = .ok y := by
  induction xs with
  | nil => exact ⟨fun _ => nofun, fun _ => ⟨[], rfl⟩⟩
  | cons x xs ih =>
    rw [List.forall_mem_cons, ← ih]
    simp only [List.mapM_cons, bind_eq_ok_iff]
    constructor
    · rintro ⟨_, y, first, ys, rest, _⟩
      exact ⟨⟨y, first⟩, ys, rest⟩
    · rintro ⟨⟨y, first⟩, ys, rest⟩
      exact ⟨y :: ys, y, first, ys, rest, rfl⟩

theorem exists_bind_ok_iff {x : Except ε α} {f : α → β} :
    (∃ b, (x >>= fun a => .ok (f a)) = .ok b) ↔ ∃ a, x = .ok a := by
  cases x with
  | error e => exact ⟨nofun, nofun⟩
  | ok a => exact ⟨fun _ => ⟨a, rfl⟩, fun _ => ⟨f a, rfl⟩⟩

/-- What fails item by item fails at the first item that fails. -/
theorem mapM_eq_error_iff {f : α → Except ε β} {xs : List α} {e : ε} :
    xs.mapM f = .error e ↔
      ∃ before x after, xs = before ++ x :: after ∧ (∀ y ∈ before, ∃ z, f y = .ok z) ∧ f x = .error e := by
  induction xs with
  | nil =>
    refine ⟨nofun, ?_⟩
    rintro ⟨before, x, after, split, _⟩
    cases before <;> cases split
  | cons x xs ih =>
    simp only [List.mapM_cons, bind_eq_error_iff, ih]
    constructor
    · rintro (failed | ⟨z, first, ⟨before, y, after, rfl, well, failed⟩ | ⟨_, _, never⟩⟩)
      · exact ⟨[], x, xs, rfl, nofun, failed⟩
      · exact ⟨x :: before, y, after, rfl, List.forall_mem_cons.mpr ⟨⟨z, first⟩, well⟩, failed⟩
      · cases never
    · rintro ⟨before, y, after, split, well, failed⟩
      cases before with
      | nil =>
        cases split
        exact .inl failed
      | cons w before =>
        cases split
        obtain ⟨⟨z, first⟩, well⟩ := List.forall_mem_cons.mp well
        exact .inr ⟨z, first, .inl ⟨before, y, after, rfl, well, failed⟩⟩

/-- What fails step by step fails at the first step that fails, with what the steps before it gave. -/
theorem foldlM_eq_error_iff {f : β → α → Except ε β} {xs : List α} {b : β} {e : ε} :
    xs.foldlM f b = .error e ↔
      ∃ before x after c, xs = before ++ x :: after ∧ before.foldlM f b = .ok c ∧ f c x = .error e := by
  induction xs generalizing b with
  | nil =>
    refine ⟨nofun, ?_⟩
    rintro ⟨before, x, after, c, split, _⟩
    cases before <;> cases split
  | cons x xs ih =>
    simp only [List.foldlM_cons, bind_eq_error_iff, ih]
    constructor
    · rintro (failed | ⟨d, first, before, y, after, c, rfl, run, failed⟩)
      · exact ⟨[], x, xs, b, rfl, rfl, failed⟩
      · exact ⟨x :: before, y, after, c, rfl, bind_eq_ok_iff.mpr ⟨d, first, run⟩, failed⟩
    · rintro ⟨before, y, after, c, split, run, failed⟩
      cases before with
      | nil =>
        cases split
        cases run
        exact .inl failed
      | cons w before =>
        cases split
        obtain ⟨d, first, run⟩ := ok_of_bind run
        exact .inr ⟨d, first, before, y, after, c, rfl, run, failed⟩

/-- An operation whose failures are all of one sort. -/
def FailsOnly (P : ε → Prop) (x : Except ε α) : Prop := ∀ e, x = .error e → P e

theorem failsOnly_ok {P : ε → Prop} (a : α) : FailsOnly P (.ok a : Except ε α) := nofun

theorem failsOnly_error {P : ε → Prop} {e : ε} (holds : P e) : FailsOnly P (.error e : Except ε α) := by
  rintro _ ⟨⟩
  exact holds

theorem failsOnly_error_iff {P : ε → Prop} {e : ε} : FailsOnly P (.error e : Except ε α) ↔ P e :=
  ⟨fun only => only e rfl, failsOnly_error⟩

theorem FailsOnly.bind {P : ε → Prop} {x : Except ε α} {f : α → Except ε β} (first : FailsOnly P x)
    (next : ∀ a, x = .ok a → FailsOnly P (f a)) : FailsOnly P (x >>= f) := by
  cases x with
  | error e => exact failsOnly_error (first e rfl)
  | ok a => exact next a rfl

theorem failsOnly_bind_iff {P : ε → Prop} {x : Except ε α} {f : α → Except ε β} :
    FailsOnly P (x >>= f) ↔ FailsOnly P x ∧ ∀ a, x = .ok a → FailsOnly P (f a) := by
  cases x with
  | error e =>
    refine ⟨fun only => ⟨failsOnly_error (only e rfl), nofun⟩, fun only => ?_⟩
    exact failsOnly_error (only.1 e rfl)
  | ok a =>
    refine ⟨fun only => ⟨failsOnly_ok a, ?_⟩, fun only => only.2 a rfl⟩
    rintro _ ⟨⟩
    exact only

theorem FailsOnly.mono {P Q : ε → Prop} {x : Except ε α} (only : FailsOnly P x) (weaker : ∀ e, P e → Q e) :
    FailsOnly Q x := fun e failed => weaker e (only e failed)

theorem FailsOnly.map {P : ε → Prop} {x : Except ε α} (only : FailsOnly P x) (f : α → β) : FailsOnly P (x.map f) := by
  cases x with
  | error e => exact failsOnly_error (only e rfl)
  | ok a => exact failsOnly_ok (f a)

end AccountInput
