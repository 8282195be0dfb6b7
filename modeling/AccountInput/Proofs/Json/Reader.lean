import AccountInput.Json.Reader
import AccountInput.Proofs.Outcome

namespace AccountInput
namespace Json

/-- What may follow an integer: no further digit, and no fraction or exponent, which would make it a
binary64. -/
def EndsInteger (after : List Char) : Prop :=
  (∀ c ∈ after.head?, isDigit c = false) ∧ fractionDigits after = [] ∧ exponentDigits after = none

/-- A text that begins with the digits of an integer, more of them than are read. -/
def LongDigitsAt (cs : List Char) : Prop :=
  ∃ digits after, cs = digits ++ after ∧ (∀ c ∈ digits, isDigit c = true) ∧ digits.head? ≠ some '0' ∧
    Decimal.digitLimit < digits.length ∧ EndsInteger after

/-- A text that begins with such digits or with a minus sign and such digits. -/
def LongIntegerAt (cs : List Char) : Prop := LongDigitsAt cs ∨ ∃ rest, cs = '-' :: rest ∧ LongDigitsAt rest

/-- A text that can be read up to a place where a value is due, and there begins with an integer of more
digits than are read. -/
def MeetsLongInteger (cs : List Char) : Prop :=
  ∃ before front ts s orClose, cs = before ++ front ∧ tokens cs = ts ++ tokens front ∧
    ts.foldlM step ⟨.value false, []⟩ = .ok s ∧ s.expected = .value orClose ∧ LongIntegerAt front

theorem takeWhile_digits {digits after : List Char} (all : ∀ c ∈ digits, isDigit c = true)
    (ends : ∀ c ∈ after.head?, isDigit c = false) : (digits ++ after).takeWhile isDigit = digits := by
  rw [List.takeWhile_append_of_pos all]
  cases after with
  | nil => rw [List.takeWhile_nil, List.append_nil]
  | cons c after => rw [List.takeWhile_cons_of_neg (Bool.eq_false_iff.mp (ends c rfl)), List.append_nil]

theorem wholeDigits_of_head {cs : List Char} (head : cs.head? ≠ some '0') : wholeDigits cs = cs.takeWhile isDigit := by
  unfold wholeDigits
  split
  · exact absurd rfl head
  · rfl

theorem head_of_long_wholeDigits {cs : List Char} (long : Decimal.digitLimit < (wholeDigits cs).length) :
    cs.head? ≠ some '0' := by
  rintro zero
  obtain ⟨rest, rfl⟩ := List.head?_eq_some_iff.mp zero
  exact absurd long (by change ¬4300 < 1; decide)

theorem drop_takeWhile_digits (cs : List Char) :
    cs.drop (cs.takeWhile isDigit).length = cs.dropWhile isDigit := by
  have rest : (cs.takeWhile isDigit ++ cs.dropWhile isDigit).drop (cs.takeWhile isDigit).length =
    cs.dropWhile isDigit := List.drop_left
  rwa [List.takeWhile_append_dropWhile] at rest

theorem head_dropWhile_digits {cs : List Char} : ∀ c ∈ (cs.dropWhile isDigit).head?, isDigit c = false := by
  intro c first
  have stops := List.head?_dropWhile_not isDigit cs
  rw [Option.mem_def.mp first] at stops
  exact stops

theorem unsignedNumber_eq_longInt_iff {negative : Bool} {cs : List Char} :
    (∃ k, unsignedNumber negative cs = some (.longInt, k)) ↔ LongDigitsAt cs := by
  constructor
  · rintro ⟨k, run⟩
    unfold unsignedNumber at run
    simp only at run
    split at run
    · cases run
    split at run
    · rename_i exponent
      split at run
      · rename_i fraction
        split at run
        · cases run
        · rename_i long
          have long := Nat.lt_of_not_le long
          have head := head_of_long_wholeDigits long
          rw [if_pos fraction, Nat.add_zero] at exponent
          rw [wholeDigits_of_head head] at long
          rw [wholeDigits_of_head head, drop_takeWhile_digits] at exponent fraction
          refine ⟨cs.takeWhile isDigit, cs.dropWhile isDigit, (List.takeWhile_append_dropWhile ..).symm, ?_, ?_, long,
            head_dropWhile_digits, List.isEmpty_iff.mp fraction, exponent⟩
          · exact List.all_eq_true.mp List.all_takeWhile
          · rw [List.head?_takeWhile]
            exact fun zero => head (Option.filter_eq_some_iff.mp zero).1
      · cases run
    · cases run
  · rintro ⟨digits, after, rfl, all, head, long, ends, fraction, exponent⟩
    obtain ⟨d, more, rfl⟩ := List.exists_cons_of_ne_nil (List.ne_nil_of_length_pos (Nat.zero_lt_of_lt long))
    have front : (d :: more ++ after).head? ≠ some '0' := head
    have whole : wholeDigits (d :: more ++ after) = d :: more := by
      rw [wholeDigits_of_head front, takeWhile_digits all ends]
    refine ⟨(d :: more).length, ?_⟩
    simp only [unsignedNumber, whole, List.drop_left, fraction, List.isEmpty_nil, List.isEmpty_cons, if_true,
      Nat.add_zero, exponent, if_neg (Nat.not_le.mpr long)]
    rfl

theorem LongDigitsAt.head {cs : List Char} (long : LongDigitsAt cs) : ∃ d more, cs = d :: more ∧ isDigit d = true := by
  obtain ⟨digits, after, rfl, all, _, many, _⟩ := long
  obtain ⟨d, more, rfl⟩ := List.exists_cons_of_ne_nil (List.ne_nil_of_length_pos (Nat.zero_lt_of_lt many))
  exact ⟨d, more ++ after, rfl, all d (List.mem_cons_self ..)⟩

theorem number?_eq_longInt_iff {cs : List Char} : (∃ k, number? cs = some (.longInt, k)) ↔ LongIntegerAt cs := by
  constructor
  · rintro ⟨k, run⟩
    unfold number? at run
    split at run
    · rename_i rest
      obtain ⟨⟨t, n⟩, unsigned, same⟩ := Option.map_eq_some_iff.mp run
      cases same
      exact .inr ⟨rest, rfl, unsignedNumber_eq_longInt_iff.mp ⟨n, unsigned⟩⟩
    · exact .inl (unsignedNumber_eq_longInt_iff.mp ⟨k, run⟩)
  · rintro (long | ⟨rest, rfl, long⟩)
    · obtain ⟨d, more, rfl, digit⟩ := long.head
      obtain ⟨k, unsigned⟩ := unsignedNumber_eq_longInt_iff.mpr long
      refine ⟨k, ?_⟩
      unfold number?
      split
      · rename_i same
        cases same
        cases digit
      · exact unsigned
    · obtain ⟨k, unsigned⟩ := unsignedNumber_eq_longInt_iff.mpr long
      exact ⟨k + 1, by rw [number?, unsigned]; rfl⟩

theorem words_without_digits : ∀ w ∈ words, 1 < w.1.length ∧ w.1.any isDigit = false ∧ w.2 ≠ .longInt := by
  decide

/-- A text that begins with a digit, or with a minus sign and a digit. -/
def BeginsNumber (cs : List Char) : Prop :=
  ∃ d more, isDigit d = true ∧ (cs = d :: more ∨ cs = '-' :: d :: more)

theorem LongIntegerAt.beginsNumber {cs : List Char} (long : LongIntegerAt cs) : BeginsNumber cs := by
  rcases long with long | ⟨rest, rfl, long⟩
  · obtain ⟨d, more, rfl, digit⟩ := long.head
    exact ⟨d, more, digit, .inl rfl⟩
  · obtain ⟨d, more, rfl, digit⟩ := long.head
    exact ⟨d, more, digit, .inr rfl⟩

theorem BeginsNumber.word?_eq_none {cs : List Char} (begins : BeginsNumber cs) : word? cs = none := by
  have unlike : ∀ w ∈ words, ¬w.1.isPrefixOf cs = true := by
    intro w member front
    obtain ⟨two, plain, _⟩ := words_without_digits w member
    obtain ⟨rest, split⟩ := List.isPrefixOf_iff_prefix.mp front
    match letters : w.1 with
    | [] => rw [letters] at two; exact absurd two (Nat.not_lt_zero 1)
    | [_] => rw [letters] at two; exact absurd two (Nat.lt_irrefl 1)
    | a :: b :: more =>
      rw [letters] at split plain
      have other := List.any_eq_false.mp plain
      obtain ⟨d, _, digit, rfl | rfl⟩ := begins
      all_goals cases split
      · exact other _ (.head _) digit
      · exact other _ (.tail _ (.head _)) digit
  rw [word?, List.find?_eq_none.mpr unlike]
  rfl

theorem LongIntegerAt.exists_cons {cs : List Char} (long : LongIntegerAt cs) : ∃ c rest, cs = c :: rest := by
  obtain ⟨d, more, _, rfl | rfl⟩ := long.beginsNumber
  · exact ⟨d, more, rfl⟩
  · exact ⟨'-', d :: more, rfl⟩

theorem BeginsNumber.head {c : Char} {rest : List Char} (begins : BeginsNumber (c :: rest)) :
    c = '-' ∨ isDigit c = true := by
  obtain ⟨d, more, digit, same | same⟩ := begins
  · cases same
    exact .inr digit
  · cases same
    exact .inl rfl

theorem BeginsNumber.solid {c : Char} {rest : List Char} (begins : BeginsNumber (c :: rest)) : ¬isBlank c = true := by
  intro blank
  simp only [isBlank, Bool.or_eq_true, decide_eq_true_eq] at blank
  rcases blank with ((rfl | rfl) | rfl) | rfl <;> exact absurd begins.head (by decide)

/-- What begins like a number is a number or no token. -/
theorem BeginsNumber.lexeme_eq {c : Char} {rest : List Char} (begins : BeginsNumber (c :: rest)) :
    lexeme c rest = ((number? (c :: rest)).map fun n => (n.1, n.2 - 1)).getD (.bad, 0) := by
  unfold lexeme
  split
  case h_8 =>
    rw [begins.word?_eq_none, Option.orElse_none]
    cases number? (c :: rest) <;> rfl
  all_goals exact absurd begins.head (by decide)

theorem lexeme_eq_longInt_iff {c : Char} {rest : List Char} :
    (lexeme c rest).1 = .longInt ↔ LongIntegerAt (c :: rest) := by
  constructor
  · intro lexed
    unfold lexeme at lexed
    split at lexed
    any_goals cases lexed
    · split at lexed <;> cases lexed
    · split at lexed
      · rename_i t k found
        cases lexed
        cases word : word? (c :: rest) with
        | some found' =>
          rw [word] at found
          cases found
          obtain ⟨w, first, same⟩ := Option.map_eq_some_iff.mp word
          exact absurd (congrArg Prod.fst same) (words_without_digits w (List.mem_of_find?_eq_some first)).2.2
        | none =>
          rw [word] at found
          exact number?_eq_longInt_iff.mp ⟨k, found⟩
      · cases lexed
  · intro long
    obtain ⟨k, number⟩ := number?_eq_longInt_iff.mpr long
    rw [long.beginsNumber.lexeme_eq, number]
    rfl

theorem tokensAfter_cons {c : Char} (rest : List Char) (solid : ¬isBlank c = true) :
    tokensAfter 0 (c :: rest) = (lexeme c rest).1 ::
      if (lexeme c rest).1 = .bad then [] else tokensAfter (lexeme c rest).2 rest := by
  rw [tokensAfter, if_neg solid]
  split
  · rename_i lexed
    rw [lexed, if_pos rfl]
  · rename_i t k other lexed
    rw [lexed, if_neg other]

/-- The tokens from some place on are the tokens of the text from some place on. -/
theorem tokensAfter_split {k : Nat} {cs : List Char} {ts : List Token} {t : Token} {us : List Token}
    (split : tokensAfter k cs = ts ++ t :: us) :
    ∃ before c rest, cs = before ++ c :: rest ∧ tokens (c :: rest) = t :: us ∧ (lexeme c rest).1 = t := by
  -- by characters and not by tokens, for a token may take several of them
  induction cs generalizing k ts with
  | nil =>
    have none : tokensAfter k [] = [] := by cases k <;> rfl
    rw [none] at split
    cases ts <;> cases split
  | cons c cs ih =>
    cases k with
    | succ k =>
      obtain ⟨before, d, rest, rfl, same⟩ := ih split
      exact ⟨c :: before, d, rest, rfl, same⟩
    | zero =>
      by_cases blank : isBlank c = true
      · rw [tokensAfter, if_pos blank] at split
        obtain ⟨before, d, rest, rfl, same⟩ := ih split
        exact ⟨c :: before, d, rest, rfl, same⟩
      · have here := tokensAfter_cons cs blank
        rw [split] at here
        cases ts with
        | nil => exact ⟨[], c, cs, rfl, split, (List.cons.inj here).1.symm⟩
        | cons first ts =>
          have later := (List.cons.inj here).2
          split at later
          · cases ts <;> cases later
          · obtain ⟨before, d, rest, rfl, same⟩ := ih later.symm
            exact ⟨c :: before, d, rest, rfl, same⟩

theorem step_eq_tooManyDigits_iff {s : State} {t : Token} :
    step s t = .error .tooManyDigits ↔ t = .longInt ∧ ∃ orClose, s.expected = .value orClose := by
  rcases s with ⟨expected, stack⟩
  constructor
  · intro failed
    cases expected with
    | value orClose =>
      refine ⟨?_, orClose, rfl⟩
      cases t
      case longInt => rfl
      all_goals
        simp only [step, readValue, deeper] at failed
        try split at failed
        all_goals cases failed
    | name members orClose =>
      cases t
      all_goals
        simp only [step] at failed
        try split at failed
        all_goals cases failed
    | colon members name => cases t <;> cases failed
    | after v =>
      simp only [step, readAfter] at failed
      split at failed <;> cases failed
  · rintro ⟨rfl, orClose, rfl⟩
    rfl

theorem ofTokens_eq_tooManyDigits_iff {ts : List Token} :
    ofTokens ts = .error .tooManyDigits ↔ ts.foldlM step ⟨.value false, []⟩ = .error .tooManyDigits := by
  rw [ofTokens, bind_eq_error_iff]
  refine or_iff_left ?_
  rintro ⟨s, _, failed⟩
  split at failed <;> cases failed

theorem read_eq_tooManyDigits_iff {cs : List Char} : read cs = .error .tooManyDigits ↔ MeetsLongInteger cs := by
  rw [read, ofTokens_eq_tooManyDigits_iff, foldlM_eq_error_iff]
  constructor
  · rintro ⟨ts, t, us, s, split, run, failed⟩
    obtain ⟨rfl, orClose, due⟩ := step_eq_tooManyDigits_iff.mp failed
    obtain ⟨before, c, rest, rfl, here, lexed⟩ := tokensAfter_split split
    exact ⟨before, c :: rest, ts, s, orClose, rfl, by rw [here]; exact split, run, due, lexeme_eq_longInt_iff.mp lexed⟩
  · rintro ⟨before, front, ts, s, orClose, rfl, split, run, due, long⟩
    obtain ⟨c, rest, rfl⟩ := long.exists_cons
    have here := tokensAfter_cons rest long.beginsNumber.solid
    rw [lexeme_eq_longInt_iff.mpr long] at here
    rw [tokens.eq_def (c :: rest), here] at split
    exact ⟨ts, .longInt, _, s, split, run, step_eq_tooManyDigits_iff.mpr ⟨rfl, orClose, due⟩⟩

end Json
end AccountInput
