import AccountInput.Document.Schedule
import AccountInput.Proofs.Problem
import AccountInput.Proofs.Value.Keys

namespace AccountInput

/-- A problem with a document, and the field that it names. -/
def Fault.Blames (f : Fault) (field : Value) : Prop :=
  ∃ p chained es, f = .problem p chained ∧ p.kind = .graphqlParse ∧ p.data.entries? = some es ∧
    Value.get? es "field" = some field

theorem Fault.Blames.ne_tooManyDigits {f : Fault} {field : Value} (blames : f.Blames field) : f ≠ .tooManyDigits := by
  obtain ⟨p, chained, es, rfl, _⟩ := blames
  nofun

theorem Problem.fail_blames (message : String) (field : Value) {data : List (String × Value)}
    (shown : field.isReportable = true) (plain : Plain data) (chained : Bool) :
    (fail .graphqlParse .graphqlParse message (("field", field) :: data) chained).Blames field := by
  rw [fail_eq_of_plain _ _ _ (.cons shown plain)]
  exact ⟨_, _, _, rfl, rfl, rfl, Value.get?_ofFields_cons _ _ _⟩

namespace Document

/-- A text that spells a number of a document: decimal digits, one of them at least, and a plus sign before
them or none. -/
def Spells (s : String) (digits : List Char) : Prop :=
  digits ≠ [] ∧ (∀ c ∈ digits, Json.isDigit c = true) ∧ (s.toList = digits ∨ s.toList = '+' :: digits)

/-- What stands under a key is a text that spells a number by certain digits. -/
def SpelledUnder (ms : List (Value × Value)) (key : String) (digits : List Char) : Prop :=
  ∃ v s, Value.get? ms key = some v ∧ v.text? = some s ∧ Spells s digits

/-- What stands under a key is the text of a number below `2 ^ 64`, by however many digits. -/
def Holds (ms : List (Value × Value)) (key : String) (n : Nat) : Prop :=
  ∃ digits, SpelledUnder ms key digits ∧ Json.digitsValue digits = n ∧ n < UInt64.size

/-- What stands under a key is the text of a number, by more digits than are read. -/
def LongUnder (ms : List (Value × Value)) (key : String) : Prop :=
  ∃ digits, SpelledUnder ms key digits ∧ Decimal.digitLimit < digits.length

/-- The value of a digit. -/
def digitValue (c : Char) : Nat := c.toNat - '0'.toNat

theorem asciiDigit?_eq_some_iff {c : Char} {n : Nat} :
    Text.asciiDigit? c = some n ↔ Json.isDigit c = true ∧ n = digitValue c := by
  have range : Json.isDigit c = true ↔ '0' ≤ c ∧ c ≤ '9' := by
    rw [Json.isDigit, Bool.and_eq_true, decide_eq_true_iff, decide_eq_true_iff]
  rw [Text.asciiDigit?, range]
  split
  · rename_i digit
    rw [Option.some.injEq, and_iff_right digit, digitValue, eq_comm]
  · rename_i other
    exact iff_of_false nofun fun ⟨digit, _⟩ => other digit

theorem mapM_asciiDigit?_eq_some_iff {cs : List Char} {ns : List Nat} :
    cs.mapM Text.asciiDigit? = some ns ↔ (∀ c ∈ cs, Json.isDigit c = true) ∧ ns = cs.map digitValue := by
  induction cs generalizing ns with
  | nil =>
    rw [List.mapM_nil, List.map_nil, eq_comm]
    exact ⟨fun same => ⟨nofun, Option.some.inj same⟩, fun ⟨_, same⟩ => congrArg some same⟩
  | cons c cs ih =>
    simp only [List.mapM_cons, bind, Option.bind_eq_some_iff, asciiDigit?_eq_some_iff, ih, pure, Option.some.injEq,
      List.forall_mem_cons, List.map_cons]
    constructor
    · rintro ⟨_, ⟨digit, rfl⟩, _, ⟨digits, rfl⟩, rfl⟩
      exact ⟨⟨digit, digits⟩, rfl⟩
    · rintro ⟨⟨digit, digits⟩, rfl⟩
      exact ⟨_, ⟨digit, rfl⟩, _, ⟨digits, rfl⟩, rfl⟩

theorem digits?_eq_some_iff {cs : List Char} {ns : List Nat} :
    digits? cs = some ns ↔ cs ≠ [] ∧ (∀ c ∈ cs, Json.isDigit c = true) ∧ ns = cs.map digitValue := by
  unfold digits?
  split
  · rename_i empty
    exact iff_of_false nofun fun ⟨nonempty, _⟩ => nonempty (List.isEmpty_iff.mp empty)
  · rename_i nonempty
    rw [mapM_asciiDigit?_eq_some_iff, and_iff_right (nonempty ∘ List.isEmpty_iff.mpr)]

theorem unsigned?_eq_some_iff {s : String} {ns : List Nat} :
    unsigned? s.toList = some ns ↔ ∃ digits, Spells s digits ∧ ns = digits.map digitValue := by
  have unsigned : ∀ digits, Spells s digits → unsigned? s.toList = some (digits.map digitValue) := by
    rintro digits ⟨nonempty, all, plain | signed⟩
    · have read := digits?_eq_some_iff.mpr ⟨nonempty, all, rfl⟩
      rw [plain]
      unfold unsigned?
      split
      -- digits alone do not begin with a sign
      · exact absurd (all '+' (.head _)) (by decide)
      · exact read
    · rw [signed, unsigned?, digits?_eq_some_iff]
      exact ⟨nonempty, all, rfl⟩
  constructor
  · intro run
    unfold unsigned? at run
    split at run
    · rename_i cs signed
      obtain ⟨nonempty, all, rfl⟩ := digits?_eq_some_iff.mp run
      exact ⟨cs, ⟨nonempty, all, .inr signed⟩, rfl⟩
    · obtain ⟨nonempty, all, rfl⟩ := digits?_eq_some_iff.mp run
      exact ⟨s.toList, ⟨nonempty, all, .inl rfl⟩, rfl⟩
  · rintro ⟨digits, spells, rfl⟩
    exact unsigned digits spells

theorem isReportable_of_text? {v : Value} {s : String} (text : v.text? = some s) : v.isReportable = true := by
  cases v <;> first | rfl | cases text

theorem problem_blames (key before after : String) {data : List (String × Value)} (plain : Problem.Plain data) :
    ((Field.ofName key).problem before after data).Blames (.text key) :=
  Problem.fail_blames _ _ rfl plain _

variable {ms : List (Value × Value)} {key : String} {digits : List Char}

theorem SpelledUnder.number (spelled : SpelledUnder ms key digits) : ∃ raw : Value, raw.isReportable = true ∧
    number ms key = numberOfDigits (.ofName key) raw (digits.map digitValue) := by
  obtain ⟨v, s, found, text, spells⟩ := spelled
  refine ⟨v, isReportable_of_text? text, ?_⟩
  simp only [Document.number, numberOf, found, text, unsigned?_eq_some_iff.mpr ⟨digits, spells, rfl⟩]

theorem SpelledUnder.unique {others : List Char} (spelled : SpelledUnder ms key digits)
    (again : SpelledUnder ms key others) : digits.map digitValue = others.map digitValue := by
  obtain ⟨v, s, found, text, spells⟩ := spelled
  obtain ⟨w, t, found', text', spells'⟩ := again
  cases found.symm.trans found'
  cases text.symm.trans text'
  have read := unsigned?_eq_some_iff.mpr ⟨digits, spells, rfl⟩
  rw [unsigned?_eq_some_iff.mpr ⟨others, spells', rfl⟩] at read
  exact (Option.some.inj read).symm

theorem SpelledUnder.holds_iff {n : Nat} (spelled : SpelledUnder ms key digits) :
    Holds ms key n ↔ Json.digitsValue digits = n ∧ n < UInt64.size := by
  constructor
  · rintro ⟨others, again, value, range⟩
    exact ⟨(congrArg Decimal.ofDigits (spelled.unique again)).trans value, range⟩
  · exact fun right => ⟨digits, spelled, right⟩

theorem Holds.unique {m n : Nat} (holds : Holds ms key m) (again : Holds ms key n) : m = n := by
  obtain ⟨digits, spelled, value, _⟩ := holds
  exact value.symm.trans (spelled.holds_iff.mp again).1

theorem SpelledUnder.longUnder_iff (spelled : SpelledUnder ms key digits) :
    LongUnder ms key ↔ Decimal.digitLimit < digits.length := by
  constructor
  · rintro ⟨others, again, long⟩
    have same := congrArg List.length (spelled.unique again)
    rw [List.length_map, List.length_map] at same
    exact same ▸ long
  · exact fun long => ⟨digits, spelled, long⟩

theorem number_blames_of_not_spelled (none : ∀ digits, ¬SpelledUnder ms key digits) :
    ∃ f, number ms key = .error f ∧ f.Blames (.text key) := by
  unfold number numberOf
  split
  · exact ⟨_, rfl, problem_blames _ _ _ Problem.plain_nil⟩
  rename_i raw found
  split
  · exact ⟨_, rfl, problem_blames _ _ _ (.cons rfl Problem.plain_nil)⟩
  rename_i s text
  split
  · exact ⟨_, rfl, problem_blames _ _ _ (.cons (isReportable_of_text? text) Problem.plain_nil)⟩
  · rename_i read
    obtain ⟨digits, spells, _⟩ := unsigned?_eq_some_iff.mp read
    exact absurd ⟨raw, s, found, text, spells⟩ (none digits)

/-- What the field under a key comes to. -/
theorem number_cases (ms : List (Value × Value)) (key : String) :
    (∃ n, number ms key = .ok n ∧ Holds ms key n.1 ∧ ¬LongUnder ms key) ∨
    (number ms key = .error .tooManyDigits ∧ LongUnder ms key) ∨
    ∃ f, number ms key = .error f ∧ f.Blames (.text key) ∧ (∀ n, ¬Holds ms key n) ∧ ¬LongUnder ms key := by
  by_cases spelled : ∃ digits, SpelledUnder ms key digits
  · obtain ⟨digits, spelled⟩ := spelled
    obtain ⟨raw, shown, run⟩ := spelled.number
    rw [run, numberOfDigits, List.length_map, spelled.longUnder_iff]
    by_cases short : digits.length ≤ Decimal.digitLimit
    · rw [if_pos short]
      by_cases range : Json.digitsValue digits < UInt64.size
      · exact .inl ⟨⟨_, range⟩, dif_pos range, spelled.holds_iff.mpr ⟨rfl, range⟩, Nat.not_lt.mpr short⟩
      · have plain : Problem.Plain [("value", raw)] := .cons shown Problem.plain_nil
        refine .inr (.inr ⟨_, dif_neg range, problem_blames _ _ _ plain, ?_, Nat.not_lt.mpr short⟩)
        rintro n holds
        obtain ⟨rfl, small⟩ := spelled.holds_iff.mp holds
        exact range small
    · exact .inr (.inl ⟨if_neg short, Nat.lt_of_not_le short⟩)
  · have none : ∀ digits, ¬SpelledUnder ms key digits := not_exists.mp spelled
    obtain ⟨f, run, blames⟩ := number_blames_of_not_spelled none
    exact .inr (.inr ⟨f, run, blames, fun _ ⟨_, spelled, _⟩ => none _ spelled, fun ⟨_, spelled, _⟩ => none _ spelled⟩)

theorem number_eq_ok_iff {n : Number} : number ms key = .ok n ↔ Holds ms key n.1 ∧ ¬LongUnder ms key := by
  rcases number_cases ms key with ⟨m, run, holds, short⟩ | ⟨run, long⟩ | ⟨f, run, _, none, _⟩
  · rw [run, and_iff_left short]
    constructor
    · intro same
      cases same
      exact holds
    · intro again
      exact congrArg Except.ok (Subtype.ext (holds.unique again))
  · rw [run]
    exact iff_of_false nofun fun ⟨_, short⟩ => short long
  · rw [run]
    exact iff_of_false nofun fun ⟨holds, _⟩ => none _ holds

theorem number_eq_tooManyDigits_iff : number ms key = .error .tooManyDigits ↔ LongUnder ms key := by
  rcases number_cases ms key with ⟨m, run, _, short⟩ | ⟨run, long⟩ | ⟨f, run, blames, _, short⟩
  · rw [run]
    exact iff_of_false nofun short
  · exact iff_of_true run long
  · rw [run]
    refine iff_of_false ?_ short
    rintro ⟨⟩
    exact blames.ne_tooManyDigits rfl

theorem number_fails : FailsOnly (fun f => f = .tooManyDigits ∨ f.Blames (.text key)) (number ms key) := by
  intro f failed
  rcases number_cases ms key with ⟨m, run, _⟩ | ⟨run, _⟩ | ⟨g, run, blames, _⟩
  all_goals
    rw [run] at failed
    cases failed
  · exact .inl rfl
  · exact .inr blames

end Document
end AccountInput
