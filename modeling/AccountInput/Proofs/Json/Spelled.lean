import AccountInput.Json.Grammar
import AccountInput.Proofs.Json.Reader
import AccountInput.Proofs.Json.Written
import AccountInput.Proofs.Value.Keys

namespace AccountInput

theorem Value.depthOfEntries_lt {es : List (Value × Value)} {n : Nat} (room : 0 < n)
    (shallow : ∀ e ∈ es, e.2.depth < n) : depthOfEntries es < n := by
  induction es with
  | nil => exact room
  | cons e es ih =>
    obtain ⟨k, v⟩ := e
    obtain ⟨first, others⟩ := List.forall_mem_cons.mp shallow
    exact Nat.max_lt.mpr ⟨first, ih others⟩

namespace Json

/-- What may stand after a value or a name: nothing, a blank, or a sign that separates or closes. -/
def Stops (rest : List Char) : Prop :=
  ∀ c ∈ rest.head?, isBlank c = true ∨ c ∈ [',', ':', ']', '}']

/-- Characters that are certain tokens before whatever may follow a value. -/
def LexesBefore (cs : List Char) (ts : List Token) : Prop :=
  ∀ rest, Stops rest → tokensAfter 0 (cs ++ rest) = ts ++ tokensAfter 0 rest

variable {cs ds rest : List Char} {ts us : List Token}

theorem Lexes.before (lexes : Lexes cs ts) : LexesBefore cs ts := fun rest _ => lexes rest

theorem LexesBefore.nil : LexesBefore [] [] := fun _ _ => rfl

theorem LexesBefore.tokens (lexes : LexesBefore cs ts) : tokens cs = ts := by
  have whole := lexes [] nofun
  rw [List.append_nil] at whole
  exact whole.trans (List.append_nil ts)

theorem Lexes.append_before (first : Lexes cs ts) (second : LexesBefore ds us) : LexesBefore (cs ++ ds) (ts ++ us) := by
  intro rest stops
  rw [List.append_assoc, first, second rest stops, List.append_assoc]

/-- A separator between two pieces of text. -/
theorem LexesBefore.append {c : Char} {t : Token} (first : LexesBefore cs ts) (separates : c ∈ [',', ':', ']', '}'])
    (between : Lexes [c] [t]) (second : LexesBefore ds us) : LexesBefore (cs ++ c :: ds) (ts ++ t :: us) := by
  intro rest stops
  have stop : Stops (c :: (ds ++ rest)) := by
    rintro _ ⟨⟩
    exact .inr separates
  rw [List.append_assoc, List.cons_append, first _ stop, show c :: (ds ++ rest) = [c] ++ (ds ++ rest) from rfl, between,
    second rest stops, List.append_assoc]
  rfl

theorem lexes_blank {c : Char} (blank : isBlank c = true) : Lexes [c] [] := by
  intro rest
  rw [List.singleton_append, tokensAfter, if_pos blank, List.nil_append]

theorem lexes_blanks {blanks : List Char} (blank : ∀ c ∈ blanks, isBlank c = true) : Lexes blanks [] := by
  induction blanks with
  | nil => exact fun _ => rfl
  | cons c blanks ih =>
    obtain ⟨first, later⟩ := List.forall_mem_cons.mp blank
    exact (lexes_blank first).append (ih later)

theorem LexesBefore.append_blank {c : Char} (lexes : LexesBefore cs ts) (blank : isBlank c = true) :
    LexesBefore (cs ++ [c]) ts := by
  intro rest stops
  have stop : Stops (c :: rest) := by
    rintro _ ⟨⟩
    exact .inl blank
  rw [List.append_assoc, List.singleton_append, lexes _ stop, tokensAfter, if_pos blank]

theorem tokensAfter_length (cs rest : List Char) : tokensAfter cs.length (cs ++ rest) = tokensAfter 0 rest := by
  induction cs with
  | nil => rfl
  | cons c cs ih => exact ih

theorem shortEscape?_ne_unit {e : Char} {n : Nat} (letter : shortEscape? e = some n) : e ≠ 'u' := by
  rintro rfl
  cases letter

theorem SpellsUnits.units?_eq {ns : List Nat} (spells : SpellsUnits ns cs) (rest : List Char) :
    units? (cs ++ '"' :: rest) = some (ns, cs.length + 1) := by
  induction spells with
  | nil => rfl
  | plain above other _ ih =>
    rw [List.cons_append, units?, if_neg (Nat.not_lt.mpr above), ih]
    · rfl
    · exact other.1
    · exact fun _ _ _ _ _ same => absurd same other.2
    · exact fun _ _ same => absurd same other.2
  | short letter _ ih =>
    rw [List.cons_append, List.cons_append, units?, letter, ih]
    · rfl
    · exact fun _ _ _ _ _ same => absurd same (shortEscape?_ne_unit letter)
  | unit digits _ ih =>
    simp only [List.cons_append, units?, digits, ih]
    rfl

theorem SpellsUnits.lexes {ns : List Nat} (spells : SpellsUnits ns cs) :
    Lexes ('"' :: cs ++ ['"']) [.text (String.ofList (Text.ofPairs ns))] := by
  intro rest
  have lexed : lexeme '"' (cs ++ ['"'] ++ rest) = (.text (String.ofList (Text.ofPairs ns)), (cs ++ ['"']).length) := by
    rw [List.append_assoc, List.singleton_append, List.length_append]
    simp only [lexeme, spells.units?_eq rest]
    rfl
  have first := tokensAfter_cons (c := '"') (cs ++ ['"'] ++ rest) (by decide)
  rw [lexed, if_neg nofun, tokensAfter_length] at first
  exact first

/-- What may stand after a value is no part of a number. -/
theorem Stops.head {c : Char} (stops : Stops (c :: rest)) : isDigit c = false ∧ c ≠ '.' ∧ c ≠ 'e' ∧ c ≠ 'E' := by
  rcases stops c rfl with blank | sign
  · simp only [isBlank, Bool.or_eq_true, decide_eq_true_eq] at blank
    rcases blank with ((rfl | rfl) | rfl) | rfl <;> decide
  · simp only [List.mem_cons, List.not_mem_nil, or_false] at sign
    rcases sign with rfl | rfl | rfl | rfl <;> decide

theorem Stops.ends (stops : Stops rest) : ∀ c ∈ rest.head?, isDigit c = false := by
  intro c first
  obtain ⟨more, rfl⟩ := List.head?_eq_some_iff.mp first
  exact stops.head.1

theorem wholeDigits_append (whole : AreWhole ds) (ends : ∀ c ∈ rest.head?, isDigit c = false) :
    wholeDigits (ds ++ rest) = ds := by
  obtain ⟨⟨some, all⟩, alone⟩ := whole
  by_cases zero : ds.head? = Option.some '0'
  · rw [alone zero]
    rfl
  · have head : (ds ++ rest).head? ≠ Option.some '0' := by
      rwa [List.head?_append_of_ne_nil ds some]
    rw [wholeDigits_of_head head, takeWhile_digits all ends]

theorem SpellsFraction.fractionDigits_append {fs fraction : List Char} (fractional : SpellsFraction fs fraction)
    (ends : ∀ c ∈ rest.head?, isDigit c = false ∧ c ≠ '.') : fractionDigits (fraction ++ rest) = fs := by
  cases fractional with
  | digits digits => exact takeWhile_digits digits.2 fun c first => (ends c first).1
  | none =>
    rw [List.nil_append]
    unfold fractionDigits
    split
    · exact absurd rfl (ends '.' rfl).2
    · rfl

theorem SpellsFraction.length {fs fraction : List Char} (fractional : SpellsFraction fs fraction) :
    (if fs.isEmpty then 0 else 1 + fs.length) = fraction.length := by
  cases fractional with
  | none => rfl
  | digits digits =>
    rw [if_neg (digits.1 ∘ List.isEmpty_iff.mp), List.length_cons, Nat.add_comm]

theorem exponentDigits_of_stops (stops : Stops rest) : exponentDigits rest = none := by
  cases rest with
  | nil => rfl
  | cons c rest =>
    obtain ⟨_, _, lower, upper⟩ := stops.head
    simp only [exponentDigits, if_neg (not_or.mpr ⟨lower, upper⟩)]

/-- Digits after the mark of an exponent, with a sign or without one. -/
theorem exponentDigits_append {e : Char} (mark : e = 'e' ∨ e = 'E') {signs : List Char}
    (signed : signs = [] ∨ signs = ['+'] ∨ signs = ['-']) (digits : AreDigits ds)
    (ends : ∀ c ∈ rest.head?, isDigit c = false) : exponentDigits (e :: signs ++ ds ++ rest) =
      some (decide (signs = ['-']), ds, (e :: signs ++ ds).length) := by
  have taken := takeWhile_digits digits.2 ends
  have filled : ¬ds.isEmpty = true := digits.1 ∘ List.isEmpty_iff.mp
  have counted (n m : Nat) : 1 + n + m = m + n + 1 := by omega
  rcases signed with rfl | rfl | rfl
  · obtain ⟨d, more, rfl⟩ := List.exists_cons_of_ne_nil digits.1
    have digit := digits.2 d (.head _)
    simp only [List.cons_append, List.nil_append, exponentDigits, if_pos mark] at taken filled ⊢
    split
    · rename_i same
      cases same
      exact absurd digit (by decide)
    · rename_i same
      cases same
      exact absurd digit (by decide)
    · simp only [taken, if_neg filled, List.length_cons, counted]
      rfl
  · simp only [List.cons_append, List.nil_append, exponentDigits, if_pos mark, taken, if_neg filled, List.length_cons, counted]
    rfl
  · simp only [List.cons_append, List.nil_append, exponentDigits, if_pos mark, taken, if_neg filled, List.length_cons, counted]
    rfl

theorem SpellsExponent.exponentDigits_append {e : Int} {exponent : List Char} (scaled : SpellsExponent e exponent)
    (stops : Stops rest) (some : exponent ≠ []) : ∃ down ds,
    exponentDigits (exponent ++ rest) = Option.some (down, ds, exponent.length) ∧
      e = if down then -(digitsValue ds : Int) else digitsValue ds := by
  cases scaled with
  | none => exact absurd rfl some
  | @up _ plus ds mark signed digits =>
    refine ⟨false, ds, ?_, rfl⟩
    rcases signed with rfl | rfl
    · exact Json.exponentDigits_append mark (.inl rfl) digits stops.ends
    · exact Json.exponentDigits_append mark (.inr (.inl rfl)) digits stops.ends
  | @down _ ds mark digits => exact ⟨true, ds, Json.exponentDigits_append mark (.inr (.inr rfl)) digits stops.ends, rfl⟩

/-- What may follow the digits of a whole number within a number and after it. -/
theorem ends_fraction {fs fraction exponent : List Char} {e : Int} (fractional : SpellsFraction fs fraction)
    (scaled : SpellsExponent e exponent) (stops : Stops rest) :
    (∀ c ∈ (exponent ++ rest).head?, isDigit c = false ∧ c ≠ '.') ∧
      ∀ c ∈ (fraction ++ (exponent ++ rest)).head?, isDigit c = false := by
  have later : ∀ c ∈ (exponent ++ rest).head?, isDigit c = false ∧ c ≠ '.' := by
    cases scaled with
    | none =>
      intro c first
      obtain ⟨more, rfl⟩ := List.head?_eq_some_iff.mp first
      exact ⟨stops.head.1, stops.head.2.1⟩
    | up mark _ _ =>
      rintro _ ⟨⟩
      rcases mark with rfl | rfl <;> decide
    | down mark _ =>
      rintro _ ⟨⟩
      rcases mark with rfl | rfl <;> decide
  refine ⟨later, ?_⟩
  cases fractional with
  | none => exact fun c first => (later c first).1
  | digits _ =>
    rintro _ ⟨⟩
    decide

theorem unsignedNumber_int (negative : Bool) (whole : AreWhole ds) (short : ds.length ≤ Decimal.digitLimit)
    (stops : Stops rest) : unsignedNumber negative (ds ++ rest) =
      some (.int (if negative then -(digitsValue ds : Int) else digitsValue ds), ds.length) := by
  have filled : ¬ds.isEmpty = true := whole.1.1 ∘ List.isEmpty_iff.mp
  have plain : fractionDigits rest = [] :=
    SpellsFraction.none.fractionDigits_append (ends_fraction .none .none stops).1
  simp only [unsignedNumber, wholeDigits_append whole stops.ends, if_neg filled, List.drop_left, plain, List.isEmpty_nil,
    if_true, Nat.add_zero, exponentDigits_of_stops stops, if_pos short]

theorem unsignedNumber_float (negative : Bool) {fs fraction exponent : List Char} {e : Int} (whole : AreWhole ds)
    (fractional : SpellsFraction fs fraction) (scaled : SpellsExponent e exponent)
    (marked : fraction ≠ [] ∨ exponent ≠ []) (stops : Stops rest) :
    unsignedNumber negative (ds ++ fraction ++ exponent ++ rest) =
      some (.float (Double.ofDecimal negative (digitsValue (ds ++ fs)) (e - fs.length)),
        (ds ++ fraction ++ exponent).length) := by
  obtain ⟨later, ends⟩ := ends_fraction fractional scaled stops
  have filled : ¬ds.isEmpty = true := whole.1.1 ∘ List.isEmpty_iff.mp
  have split : ds ++ fraction ++ exponent ++ rest = ds ++ (fraction ++ (exponent ++ rest)) := by
    simp only [List.append_assoc]
  have rests : (ds ++ (fraction ++ (exponent ++ rest))).drop (ds.length + fraction.length) = exponent ++ rest := by
    rw [← List.drop_drop, List.drop_left, List.drop_left]
  rw [split]
  simp only [unsignedNumber, wholeDigits_append whole ends, if_neg filled, List.drop_left,
    fractional.fractionDigits_append later, fractional.length, rests]
  by_cases scale : exponent = []
  · subst scale
    cases scaled
    have some : ¬fs.isEmpty = true := by
      cases fractional with
      | none => exact absurd rfl (marked.resolve_right (absurd rfl))
      | digits digits => exact digits.1 ∘ List.isEmpty_iff.mp
    rw [List.nil_append, exponentDigits_of_stops stops]
    simp only [if_neg some, Int.zero_sub, List.length_append, List.length_nil, Nat.add_zero]
  · obtain ⟨down, es, run, rfl⟩ := scaled.exponentDigits_append stops scale
    rw [run]
    simp only [List.length_append]

theorem tokensAfter_of_number {c : Char} {t : Token} (cs : List Char) (begins : BeginsNumber (c :: (cs ++ rest)))
    (number : number? (c :: (cs ++ rest)) = some (t, (c :: cs).length)) (good : t ≠ .bad) :
    tokensAfter 0 (c :: (cs ++ rest)) = t :: tokensAfter 0 rest := by
  have lexed : lexeme c (cs ++ rest) = (t, cs.length) := by
    rw [begins.lexeme_eq, number]
    rfl
  rw [tokensAfter_cons _ begins.solid, lexed, if_neg good, tokensAfter_length]

theorem lexesBefore_number (negative : Bool) {t : Token} (digits : ∃ d more, cs = d :: more ∧ isDigit d = true)
    (number : ∀ rest, Stops rest → unsignedNumber negative (cs ++ rest) = some (t, cs.length)) (good : t ≠ .bad) :
    LexesBefore (sign negative ++ cs) [t] := by
  obtain ⟨d, more, rfl, digit⟩ := digits
  intro rest stops
  have run := number rest stops
  cases negative with
  | true =>
    refine tokensAfter_of_number (d :: more) ⟨d, more ++ rest, digit, .inr rfl⟩ ?_ good
    rw [number?, run]
    rfl
  | false =>
    refine tokensAfter_of_number more ⟨d, more ++ rest, digit, .inl rfl⟩ ?_ good
    unfold number?
    split
    · rename_i same
      cases same
      exact absurd digit (by decide)
    · exact run

theorem AreWhole.exists_cons (whole : AreWhole ds) (more : List Char) :
    ∃ d others, ds ++ more = d :: others ∧ isDigit d = true := by
  obtain ⟨d, others, rfl⟩ := List.exists_cons_of_ne_nil whole.1.1
  exact ⟨d, others ++ more, rfl, whole.1.2 d (.head _)⟩

/-- What tokens must come to where a part is due. A list and an object are looked at from their first item or member
to the last one, before they are closed; the stack leaves room for what is nested in the part. -/
def Part.ReadBy : Part → List Token → Prop
  | .name s, ts => ts = [.text s]
  | .value v, ts => ∀ orClose stack, stack.length + v.depth ≤ depthLimit →
    ts.foldlM step ⟨.value orClose, stack⟩ = .ok (.finish v stack)
  | .items vs, ts => ∀ orClose before stack, stack.length + 1 + Value.depthOfItems vs ≤ depthLimit →
    ∃ last others, last :: others = vs.reverse ++ before ∧
      ts.foldlM step ⟨.value orClose, .list before :: stack⟩ = .ok ⟨.after last, .list others :: stack⟩
  | .members fs, ts => ∀ orClose before stack, stack.length + 1 + Value.depthOfEntries (Value.ofFields fs) ≤ depthLimit →
    ∃ s v others, Value.insert others (.text s) v = Value.merge before (Value.ofFields fs) ∧
      ts.foldlM step ⟨.name before orClose, stack⟩ = .ok ⟨.after v, .object others s :: stack⟩

/-- One token that is a value. -/
theorem Token.Spells.readBy {t : Token} {v : Value} (spells : t.Spells v) : (Part.value v).ReadBy [t] := by
  intro orClose stack _
  rw [List.foldlM_cons]
  exact bind_eq_ok_iff.mpr ⟨_, spells orClose stack, rfl⟩

variable {s s' s'' : State}

theorem run_append (first : ts.foldlM step s = .ok s') (second : us.foldlM step s' = .ok s'') :
    (ts ++ us).foldlM step s = .ok s'' := by
  rw [List.foldlM_append]
  exact bind_eq_ok_iff.mpr ⟨s', first, second⟩

theorem run_cons {t : Token} (first : step s t = .ok s') (second : ts.foldlM step s' = .ok s'') :
    (t :: ts).foldlM step s = .ok s'' := by
  rw [List.foldlM_cons]
  exact bind_eq_ok_iff.mpr ⟨s', first, second⟩

theorem step_open {t : Token} {orClose : Bool} {stack : List Frame} (room : stack.length < depthLimit)
    (opens : readValue orClose stack t = deeper stack s) : step ⟨.value orClose, stack⟩ t = .ok s := by
  change readValue orClose stack t = .ok s
  rw [opens, deeper, if_pos room]

/-- Text between two brackets. -/
theorem LexesBefore.between {c d : Char} {t u : Token} (lexes : LexesBefore cs ts) (first : Lexes [c] [t])
    (closes : d ∈ [',', ':', ']', '}']) (last : Lexes [d] [u]) : LexesBefore (c :: cs ++ [d]) (t :: ts ++ [u]) :=
  first.append_before (lexes.append closes last .nil)

theorem Part.ReadBy.list {vs : List Value} (read : (Part.items vs).ReadBy ts) :
    (Part.value (.list vs)).ReadBy (.openList :: ts ++ [.closeList]) := by
  intro orClose stack room
  rw [Value.depth] at room
  obtain ⟨last, others, same, run⟩ := read true [] stack (by omega)
  refine run_cons (step_open (by omega) rfl) (run_append run (run_cons rfl ?_))
  rw [same, List.append_nil, List.reverse_reverse]
  rfl

theorem Part.ReadBy.object {fs : List (String × Value)} (read : (Part.members fs).ReadBy ts)
    (distinct : (fs.map (·.1)).Nodup) :
    (Part.value (.dict (Value.ofFields fs))).ReadBy (.openObject :: ts ++ [.closeObject]) := by
  intro orClose stack room
  rw [Value.depth] at room
  obtain ⟨s, v, others, same, run⟩ := read true [] stack (by omega)
  refine run_cons (step_open (by omega) rfl) (run_append run (run_cons rfl ?_))
  rw [same, Value.merge_ofFields distinct]
  rfl

theorem Part.ReadBy.lastItem {v : Value} (read : (Part.value v).ReadBy ts) : (Part.items [v]).ReadBy ts := by
  intro orClose before stack room
  rw [Value.depthOfItems] at room
  exact ⟨v, before, rfl, read orClose (.list before :: stack) (by rw [List.length_cons]; omega)⟩

theorem Part.ReadBy.item {v : Value} {vs : List Value} (read : (Part.value v).ReadBy ts)
    (more : (Part.items vs).ReadBy us) : (Part.items (v :: vs)).ReadBy (ts ++ .comma :: us) := by
  intro orClose before stack room
  rw [Value.depthOfItems] at room
  have first := read orClose (.list before :: stack) (by rw [List.length_cons]; omega)
  obtain ⟨last, others, same, run⟩ := more false (v :: before) stack (by omega)
  refine ⟨last, others, ?_, run_append first (run_cons rfl run)⟩
  rw [same, List.reverse_cons, List.append_assoc, List.singleton_append]

theorem Part.ReadBy.lastMember {n : String} {v : Value} (name : (Part.name n).ReadBy ts)
    (value : (Part.value v).ReadBy us) : (Part.members [(n, v)]).ReadBy (ts ++ .colon :: us) := by
  intro orClose before stack room
  rw [Value.ofFields, List.map_cons, Value.depthOfEntries] at room
  have run := value false (.object before n :: stack) (by rw [List.length_cons]; omega)
  rw [show ts = [.text n] from name]
  exact ⟨n, v, before, rfl, run_cons rfl (run_cons rfl run)⟩

theorem Part.ReadBy.member {n : String} {v : Value} {fs : List (String × Value)} {vs : List Token}
    (name : (Part.name n).ReadBy ts) (value : (Part.value v).ReadBy us) (more : (Part.members fs).ReadBy vs) :
    (Part.members ((n, v) :: fs)).ReadBy (ts ++ .colon :: (us ++ .comma :: vs)) := by
  intro orClose before stack room
  rw [Value.ofFields, List.map_cons, Value.depthOfEntries, ← Value.ofFields] at room
  have run := value false (.object before n :: stack) (by rw [List.length_cons]; omega)
  obtain ⟨s, w, others, same, later⟩ := more false (Value.insert before (.text n) v) stack (by omega)
  rw [show ts = [.text n] from name]
  exact ⟨s, w, others, same, run_cons rfl (run_cons rfl (run_append run (run_cons rfl later)))⟩

/-- A part comes to tokens that are read as it. -/
theorem Spells.exists_readBy {p : Part} (spells : Spells p cs) : ∃ ts, LexesBefore cs ts ∧ p.ReadBy ts := by
  -- on the grammar: the tokens of a part are those of its pieces, each of which stands before a sign or a blank
  induction spells with
  | null => exact ⟨_, lexes_null.before, Token.Spells.readBy fun _ _ => rfl⟩
  | bool b =>
    refine ⟨[.bool b], ?_, Token.Spells.readBy fun _ _ => rfl⟩
    cases b <;> exact fun _ _ => rfl
  | nan => exact ⟨[.float .nan], fun _ _ => rfl, Token.Spells.readBy fun _ _ => rfl⟩
  | infinite negative =>
    refine ⟨[.float (.infinite negative)], ?_, Token.Spells.readBy fun _ _ => rfl⟩
    cases negative <;> exact fun _ _ => rfl
  | int negative whole short =>
    have digits := whole.exists_cons []
    rw [List.append_nil] at digits
    exact ⟨_, lexesBefore_number negative digits (fun _ => unsignedNumber_int negative whole short) nofun,
      Token.Spells.readBy fun _ _ => rfl⟩
  | @float negative ds fs fraction exponent e whole fractional scaled marked =>
    have digits := whole.exists_cons (fraction ++ exponent)
    rw [← List.append_assoc] at digits
    have lexes := lexesBefore_number negative digits
      (fun _ => unsignedNumber_float negative whole fractional scaled marked) nofun
    rw [← List.append_assoc, ← List.append_assoc] at lexes
    exact ⟨_, lexes, Token.Spells.readBy fun _ _ => rfl⟩
  | name units => exact ⟨_, units.lexes.before, rfl⟩
  | text _ ih =>
    obtain ⟨ts, lexes, rfl⟩ := ih
    exact ⟨_, lexes, Token.Spells.readBy fun _ _ => rfl⟩
  | emptyList blank =>
    refine ⟨[.openList, .closeList],
      (lexes_blanks blank).before.between (fun _ => rfl) (by decide) fun _ => rfl, fun orClose stack room => ?_⟩
    exact run_cons (step_open room rfl) rfl
  | emptyObject blank =>
    refine ⟨[.openObject, .closeObject],
      (lexes_blanks blank).before.between (fun _ => rfl) (by decide) fun _ => rfl, fun orClose stack room => ?_⟩
    exact run_cons (step_open room rfl) rfl
  | list _ ih =>
    obtain ⟨ts, lexes, read⟩ := ih
    exact ⟨_, lexes.between (fun _ => rfl) (by decide) fun _ => rfl, read.list⟩
  | object _ distinct ih =>
    obtain ⟨ts, lexes, read⟩ := ih
    exact ⟨_, lexes.between (fun _ => rfl) (by decide) fun _ => rfl, read.object distinct⟩
  | lastItem _ ih =>
    obtain ⟨ts, lexes, read⟩ := ih
    exact ⟨ts, lexes, read.lastItem⟩
  | item _ _ first later =>
    obtain ⟨ts, lexes, read⟩ := first
    obtain ⟨us, lexes', read'⟩ := later
    exact ⟨_, lexes.append (by decide) (fun _ => rfl) lexes', read.item read'⟩
  | lastMember _ _ name value =>
    obtain ⟨ts, lexes, named⟩ := name
    obtain ⟨us, lexes', read⟩ := value
    exact ⟨_, lexes.append (by decide) (fun _ => rfl) lexes', named.lastMember read⟩
  | member _ _ _ name value later =>
    obtain ⟨ts, lexes, named⟩ := name
    obtain ⟨us, lexes', read⟩ := value
    obtain ⟨vs, lexes'', more⟩ := later
    exact ⟨_, lexes.append (by decide) (fun _ => rfl) (lexes'.append (by decide) (fun _ => rfl) lexes''),
      named.member read more⟩
  | before blank _ ih =>
    obtain ⟨ts, lexes, read⟩ := ih
    exact ⟨ts, (lexes_blank blank).append_before lexes, read⟩
  | after _ blank ih =>
    obtain ⟨ts, lexes, read⟩ := ih
    exact ⟨ts, lexes.append_blank blank, read⟩

/-- Any text that spells a value is read as it, unless the value is nested too deeply. -/
theorem read_of_spells {v : Value} (spells : Spells (.value v) cs) (shallow : v.depth ≤ depthLimit) :
    read cs = .ok v := by
  obtain ⟨ts, lexes, run⟩ := spells.exists_readBy
  have run := run false [] (by rwa [List.length_nil, Nat.zero_add])
  rw [read, lexes.tokens, ofTokens]
  exact bind_eq_ok_iff.mpr ⟨_, run, rfl⟩

end Json
end AccountInput
