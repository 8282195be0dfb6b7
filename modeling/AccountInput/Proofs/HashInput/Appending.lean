import AccountInput.HashInput.Builders
import AccountInput.Proofs.Field.Bytes
import AccountInput.Proofs.Outcome

namespace AccountInput

theorem BlockTime.valid_packed (t : BlockTime) : (Atom.packed t.toFp 32).Valid :=
  ⟨by decide, by decide, t.low32_lt⟩

theorem TokenSymbol.valid_packed (s : TokenSymbol) : (Atom.packed s.toFp TokenSymbol.bits).Valid :=
  ⟨by decide, by decide, s.logical_lt_bits⟩

theorem Timing.tagFp_val (t : Timing) : t.tagFp.val = t.tag := by
  cases t with
  | untimed => rfl
  | timed d => rfl

theorem Timing.valid_packed (t : Timing) : (Atom.packed t.tagFp 1).Valid := by
  cases t with
  | untimed => exact ⟨by decide, by decide, Nat.zero_lt_two⟩
  | timed d => exact ⟨by decide, by decide, Nat.one_lt_two⟩

theorem Schedule.valid_of_mem {d : Schedule} {a : Atom} (member : a ∈ d.atoms) : a.Valid := by
  simp only [Schedule.atoms, List.mem_cons, List.not_mem_nil, or_false] at member
  rcases member with rfl | rfl | rfl | rfl | rfl
  · trivial
  · exact d.cliffTime.valid_packed
  · trivial
  · exact d.vestingPeriod.valid_packed
  · trivial

theorem Timing.valid_of_mem {t : Timing} {a : Atom} (member : a ∈ t.atoms) : a.Valid := by
  rcases List.mem_cons.mp member with rfl | scheduled
  · exact t.valid_packed
  · exact Schedule.valid_of_mem scheduled

theorem TokenSymbol.valid_of_mem {s : TokenSymbol} {a : Atom} (member : a ∈ s.atoms) : a.Valid := by
  cases List.mem_singleton.mp member
  exact s.valid_packed

namespace HashInput

theorem packedAtom_of_valid {v : Value} {x : Fp} {bits : Int} (element : operand v = .ok x)
    (valid : (Atom.packed x bits).Valid) : packedAtom v (.int bits) = .ok (.packed x bits) := by
  obtain ⟨positive, bound, fits⟩ := valid
  have width : (Value.int bits).strictInt? = some bits := rfl
  simp only [packedAtom, width, element, if_pos (And.intro positive bound)]
  exact if_pos fits

theorem valid_of_fieldAtom {v : Value} {a : Atom} (run : fieldAtom v = .ok a) : a.Valid := by
  obtain ⟨x, _, rfl⟩ := ok_of_map run
  trivial

theorem valid_of_packedAtom {v bits : Value} {a : Atom} (run : packedAtom v bits = .ok a) :
    a.Valid := by
  unfold packedAtom at run
  split at run
  · cases run
  · rename_i n _
    split at run
    · rename_i range
      obtain ⟨x, _, run⟩ := ok_of_bind run
      split at run
      · rename_i fits
        cases run
        exact ⟨range.1, range.2, fits⟩
      · cases run
    · obtain ⟨t, _, run⟩ := ok_of_bind run
      cases run

theorem valid_of_boolAtom {v : Value} {a : Atom} (run : boolAtom v = .ok a) : a.Valid := by
  obtain ⟨_, _, made⟩ := ok_of_bind run
  exact valid_of_packedAtom made

/-- The atoms of 32 and of 64 bits are packed ones behind a check of their range. -/
theorem valid_of_guardedAtom {within : Except Fault Bool} {v bits : Value} {f : Fault} {a : Atom}
    (run : (do if ← within then packedAtom v bits else throw f) = .ok a) : a.Valid := by
  obtain ⟨inside, _, run⟩ := ok_of_bind run
  split at run
  · exact valid_of_packedAtom run
  · cases run

theorem valid_of_timingAtoms {v : Value} {as : List Atom} (run : timingAtoms v = .ok as) :
    ∀ a ∈ as, a.Valid := by
  unfold timingAtoms at run
  split at run
  · cases run
    exact fun a => Timing.valid_of_mem
  · cases run

theorem valid_of_symbolAtoms {v : Value} {as : List Atom} (run : symbolAtoms v = .ok as) :
    ∀ a ∈ as, a.Valid := by
  unfold symbolAtoms at run
  split at run
  · cases run
    exact fun a => TokenSymbol.valid_of_mem
  · cases run

/-- What a value hands out has valid atoms, unless it is an input put together by hand. -/
theorem valid_of_producedAtoms {v : Value} {as : List Atom} (own : ∀ h, v ≠ .producer (.hashInput h))
    (run : producedAtoms v = .ok as) : ∀ a ∈ as, a.Valid := by
  obtain ⟨w, handed, run⟩ := ok_of_bind run
  split at run
  · rename_i k
    cases run
    unfold produced at handed
    split at handed
    · rename_i amount
      cases handed
      intro a member
      cases List.mem_singleton.mp member
      trivial
    · cases handed
      exact fun a => Schedule.valid_of_mem
    · obtain ⟨bs, timed, same⟩ := ok_of_map handed
      cases same
      exact valid_of_timingAtoms timed
    · obtain ⟨bs, timed, same⟩ := ok_of_map handed
      cases same
      exact valid_of_timingAtoms timed
    · cases handed
      exact fun a => TokenSymbol.valid_of_mem
    · cases handed
      exact absurd rfl (own k)
    · cases handed
    · cases handed
  · cases run

theorem Step.valid_of_atoms {s : Step} {as : List Atom} (closed : s.Closed) (run : s.atoms = .ok as) :
    ∀ a ∈ as, a.Valid := by
  have single {made : Except Fault Atom} (valid : ∀ a, made = .ok a → a.Valid)
      (run : made.map (fun a => [a]) = .ok as) : ∀ a ∈ as, a.Valid := by
    obtain ⟨a, found, rfl⟩ := ok_of_map run
    intro b member
    cases List.mem_singleton.mp member
    exact valid a found
  cases s with
  | field v => exact single (fun _ => valid_of_fieldAtom) run
  | packed v bits => exact single (fun _ => valid_of_packedAtom) run
  | bool v => exact single (fun _ => valid_of_boolAtom) run
  | u32 v => exact single (fun _ => valid_of_guardedAtom) run
  | u64 v => exact single (fun _ => valid_of_guardedAtom) run
  | produced v => exact valid_of_producedAtoms closed run
  | schedule v =>
    obtain ⟨d, rfl⟩ := closed
    cases run
    exact fun a => Schedule.valid_of_mem
  | timing v => exact valid_of_timingAtoms run
  | symbol v => exact valid_of_symbolAtoms run

theorem operand_val (x : Fp) : operand (.int x.val) = .ok x := congrArg Except.ok (Fp.ofInt_val x)

theorem amountPartAtom_of_part {v : Value} {name : String} {a : Amount}
    (held : v.part name = .ok (.amount a)) : amountPartAtom v name = .ok (.field a.toFp) := by
  have content : (Value.amount a).part "value" = .ok (.int a.toFp.val) := rfl
  unfold amountPartAtom
  rw [held]
  change (Value.amount a).part "value" >>= fieldAtom = _
  rw [content]
  exact congrArg (fun r => r.map Atom.field) (operand_val a.toFp)

theorem timePartAtom_of_part {v : Value} {name : String} {t : BlockTime}
    (held : v.part name = .ok (.blockTime t)) : timePartAtom v name = .ok (.packed t.toFp 32) := by
  unfold timePartAtom
  rw [held]
  exact packedAtom_of_valid (operand_val t.toFp) t.valid_packed

/-- The padding of the logical bytes adds nothing to their number, so they read as an element. -/
theorem readValue_padded (s : TokenSymbol) :
    Fp.readValue (.bytes .fixed (TokenSymbol.padded TokenSymbol.bufferBytes s.logical)) = .ok s.toFp := by
  have short : s.logical.length ≤ TokenSymbol.bufferBytes := by
    rw [TokenSymbol.logical, List.length_take]
    exact Nat.le_trans (Nat.min_le_left TokenSymbol.maxLength _) (by decide)
  have length := TokenSymbol.length_padded short
  have number : ofLittleEndian (TokenSymbol.padded TokenSymbol.bufferBytes s.logical) = s.toFp.val :=
    ofLittleEndian_append_zeros s.logical _
  apply Fp.readValue_bytes_eq_ok_iff.mpr
  unfold Fp.read
  rw [if_pos (show _ = elementBytes from length), number, Fp.ofNat?_val]

namespace Sink

theorem appends_schedule (d : Schedule) : (appendSchedule (.schedule d)).Appends (.ok d.atoms) := by
  have amount {name : String} {a : Amount} (held : (Value.schedule d).part name = .ok (.amount a)) :
      (appendAtom (amountPartAtom (.schedule d) name)).Appends (.ok [.field a.toFp]) := by
    rw [amountPartAtom_of_part held]
    exact appends_appendAtom _
  have time {name : String} {t : BlockTime} (held : (Value.schedule d).part name = .ok (.blockTime t)) :
      (appendAtom (timePartAtom (.schedule d) name)).Appends (.ok [.packed t.toFp 32]) := by
    rw [timePartAtom_of_part held]
    exact appends_appendAtom _
  exact (amount rfl).andThen ((time rfl).andThen ((amount rfl).andThen ((time rfl).andThen (amount rfl))))

theorem appends_timing (v : Value) : (appendTiming v).Appends (timingAtoms v) := by
  have mark (t : Timing) :
      (appendAtom (packedAtom (.int t.tag) (.int 1))).Appends (.ok [.packed t.tagFp 1]) := by
    rw [← t.tagFp_val, packedAtom_of_valid (operand_val t.tagFp) t.valid_packed]
    exact appends_appendAtom _
  unfold appendTiming timingAtoms
  split
  · exact (mark .untimed).andThen (appends_schedule .default)
  · rename_i d
    exact (mark (.timed d)).andThen (appends_schedule d)
  · split
    · rename_i t untimed timed
      cases t with
      | untimed => exact absurd rfl untimed
      | timed d => exact absurd rfl (timed d)
    · exact appends_throw _

theorem appends_symbol (v : Value) : (appendSymbol v).Appends (symbolAtoms v) := by
  unfold appendSymbol
  split
  · rename_i s
    have element : operand (.fp s.toFp) = .ok s.toFp := rfl
    have appended : (appendAtom (packedAtom (.fp s.toFp) (.int TokenSymbol.bits))).Appends (.ok s.atoms) := by
      rw [packedAtom_of_valid element s.valid_packed]
      exact appends_appendAtom _
    rw [readValue_padded]
    exact appended
  · rename_i other
    have refused : symbolAtoms v = .error .noAttribute := by
      unfold symbolAtoms
      split
      · exact absurd rfl (other _)
      · rfl
    rw [refused]
    exact appends_throw _

/-- A value of an account hands out the atoms that it appends elsewhere, and no others. -/
theorem handedOut_eq_produced (v : Value) : handedOut v = produced v := by
  unfold handedOut
  split
  · rename_i a
    have appends := appends_appendAtom (fieldAtom (.int a.val))
    rw [appends.fresh_eq]
    exact congrArg (fun r => ((r.map Atom.field).map fun x => [x]).map fun as => Value.hashInput ⟨as⟩)
      (operand_val a.toFp)
  · rw [(appends_schedule _).fresh_eq]
    rfl
  · rw [(appends_timing _).fresh_eq]
    rfl
  · rw [(appends_timing _).fresh_eq]
    rfl
  · rw [(appends_symbol _).fresh_eq]
    rfl
  · rfl

theorem appends_splice (v : Value) : (splice v).Appends (producedAtoms v) := by
  intro h
  unfold splice producedAtoms
  rw [handedOut_eq_produced]
  cases produced v with
  | error f => rfl
  | ok w => cases w <;> rfl

end Sink

/-- Step by step or at once: what a step appends as it goes on is what it stands for. -/
theorem Step.perform_appends {s : Step} (closed : s.Closed) : s.perform.Appends s.atoms := by
  cases s with
  | field v => exact Sink.appends_appendAtom _
  | packed v bits => exact Sink.appends_appendAtom _
  | bool v => exact Sink.appends_appendAtom _
  | u32 v => exact Sink.appends_appendAtom _
  | u64 v => exact Sink.appends_appendAtom _
  | produced v => exact Sink.appends_splice v
  | schedule v =>
    obtain ⟨d, rfl⟩ := closed
    exact Sink.appends_schedule d
  | timing v => exact Sink.appends_timing v
  | symbol v => exact Sink.appends_symbol v

theorem Call.perform_appends (c : Call) (bs : Builders) : (c.step bs).perform.Appends (c.step bs).atoms := by
  cases c with
  | own n s closed => exact Step.perform_appends closed
  | splice n m => exact Sink.appends_splice _

namespace Builders

theorem perform_of_atoms {bs : Builders} {c : Call} {as : List Atom} (run : (c.step bs).atoms = .ok as) :
    bs.perform c = (.ok (), Function.update bs c.target (bs c.target ++ ⟨as⟩)) := by
  have appends := c.perform_appends bs (bs c.target)
  rw [run] at appends
  simp only [perform, appends]

theorem perform_of_fault {bs : Builders} {c : Call} {f : Fault} (run : (c.step bs).atoms = .error f) :
    bs.perform c = (.error f, bs) := by
  have appends := c.perform_appends bs (bs c.target)
  rw [run] at appends
  simp only [perform, appends, Function.update_eq_self]

/-- A call does to its builder what the step does to a single input. -/
theorem after_eq_update (bs : Builders) (c : Call) :
    bs.after c = Function.update bs c.target ((bs c.target).after (c.step bs)) := by
  unfold after HashInput.after add
  cases run : (c.step bs).atoms with
  | error f =>
    rw [perform_of_fault run]
    exact (Function.update_eq_self c.target bs).symm
  | ok as =>
    rw [perform_of_atoms run]
    rfl

theorem atoms_after (bs : Builders) (c : Call) (n : Nat) :
    (bs.after c n).atoms = (bs n).atoms ++ contribution n bs c := by
  rw [after_eq_update]
  unfold contribution
  by_cases same : c.target = n
  · subst same
    rw [Function.update_self]
    unfold HashInput.after add
    cases (c.step bs).atoms with
    | error f => exact (List.append_nil _).symm
    | ok as => simp only [Except.map, atoms_append, if_true]
  · rw [Function.update_of_ne (Ne.symm same)]
    simp only [if_neg same]
    cases (c.step bs).atoms <;> exact (List.append_nil _).symm

theorem atoms_foldl_after (n : Nat) (calls : List Call) (bs : Builders) :
    (calls.foldl after bs n).atoms = (bs n).atoms ++ contributions n bs calls := by
  induction calls generalizing bs with
  | nil => exact (List.append_nil _).symm
  | cons c rest ih =>
    simp only [List.foldl_cons, ih, atoms_after, contributions, List.append_assoc]

/-- The steps of a single input are calls on one builder, so what holds of builders holds of it. -/
theorem run_own (n : Nat) (steps : List { s : Step // s.Closed }) :
    run (steps.map fun s => .own n s.val s.property) n = HashInput.run (steps.map Subtype.val) := by
  have onward (bs : Builders) : (steps.map fun s => Call.own n s.val s.property).foldl after bs n =
      (steps.map Subtype.val).foldl HashInput.after (bs n) := by
    induction steps generalizing bs with
    | nil => rfl
    | cons s rest ih =>
      rw [List.map_cons, List.foldl_cons, ih, after_eq_update]
      exact congrArg (List.foldl HashInput.after · _) (Function.update_self ..)
  exact onward empty

/-- The invariant of builders: all that has been appended is valid. -/
def Valid (bs : Builders) : Prop := ∀ n, ∀ a ∈ (bs n).atoms, a.Valid

theorem valid_of_contribution {bs : Builders} (valid : bs.Valid) (n : Nat) (c : Call) :
    ∀ a ∈ contribution n bs c, a.Valid := by
  intro a member
  unfold contribution at member
  split at member
  · rename_i as run
    split at member
    · cases c with
      | own n s closed => exact Step.valid_of_atoms closed run a member
      | splice n m =>
        cases run
        exact valid m a member
    · cases member
  · cases member

theorem Valid.after {bs : Builders} (valid : bs.Valid) (c : Call) : (bs.after c).Valid := by
  intro n a member
  rw [atoms_after] at member
  rcases List.mem_append.mp member with old | new
  · exact valid n a old
  · exact valid_of_contribution valid n c a new

theorem Valid.foldl_after {bs : Builders} (valid : bs.Valid) (calls : List Call) :
    (calls.foldl Builders.after bs).Valid := by
  induction calls generalizing bs with
  | nil => exact valid
  | cons c rest ih => exact ih (valid.after c)

theorem empty_valid : empty.Valid := by
  intro n a member
  cases member

theorem run_valid (calls : List Call) : (run calls).Valid := empty_valid.foldl_after calls

/-- Whatever calls have been made on empty builders, every atom is valid, and the atoms of a builder
are what its successful calls contribute, in order. The next call then either fails and leaves all
builders as they were, or it puts its atoms after those of one builder. Splicing brings in the atoms
of the other builder as they are before the call, also where it is the same one. -/
theorem run_appends_valid_atoms (calls : List Call) :
    (∀ n, ∀ a ∈ (run calls n).atoms, a.value.val < modulus ∧ a.Valid) ∧
    (∀ n, (run calls n).atoms = contributions n empty calls) ∧
    ∀ c : Call,
      (∀ f, ((run calls).perform c).1 = .error f →
        (c.step (run calls)).atoms = .error f ∧ (run calls).after c = run calls) ∧
      (((run calls).perform c).1 = .ok () → ∃ as, (c.step (run calls)).atoms = .ok as ∧
        ((run calls).after c c.target).atoms = (run calls c.target).atoms ++ as ∧
        (∀ n, n ≠ c.target → (run calls).after c n = run calls n) ∧
        ∀ n m, c = .splice n m → as = (run calls m).atoms) := by
  refine ⟨fun n a member => ⟨a.value.lt_modulus, run_valid calls n a member⟩,
    fun n => atoms_foldl_after n calls empty, fun c => ?_⟩
  cases run : (c.step (Builders.run calls)).atoms with
  | error f =>
    have performed := perform_of_fault run
    refine ⟨fun g failed => ?_, fun succeeded => ?_⟩
    · rw [performed] at failed
      cases failed
      exact ⟨rfl, congrArg Prod.snd performed⟩
    · rw [performed] at succeeded
      cases succeeded
  | ok as =>
    have performed := perform_of_atoms run
    have left : (Builders.run calls).after c = Function.update (Builders.run calls) c.target
        (Builders.run calls c.target ++ ⟨as⟩) := congrArg Prod.snd performed
    refine ⟨fun f failed => ?_, fun _ => ⟨as, rfl, ?_, fun n other => ?_, fun n m spliced => ?_⟩⟩
    · rw [performed] at failed
      cases failed
    · rw [left, Function.update_self, atoms_append]
    · rw [left, Function.update_of_ne other]
    · subst spliced
      exact (Except.ok.inj run).symm

end Builders

end HashInput
end AccountInput
