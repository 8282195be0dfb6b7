import AccountInput.Proofs.Json.Number
import AccountInput.Proofs.Json.Quoted

namespace AccountInput

namespace Json

/-- A value that JSON gives back as it is: its integers have no more digits than are written, its binary64 numbers are
finite, and in each of its dictionaries the keys are texts, each of which stands once. -/
inductive Faithful : Value → Prop
  | null : Faithful .null
  | bool (b : Bool) : Faithful (.bool b)
  | int {n : Int} (short : n.natAbs < Decimal.tooLong) : Faithful (.int n)
  | float {x : Double} (finite : x.isFinite = true) : Faithful (.float x)
  | text (s : String) : Faithful (.text s)
  | list {vs : List Value} (items : ∀ v ∈ vs, Faithful v) : Faithful (.list vs)
  | dict {fs : Fields} (distinct : (fs.map (·.1)).Nodup) (values : ∀ f ∈ fs, Faithful f.2) :
      Faithful (.dict (Value.ofFields fs))

theorem isAsciiPrintable_digit (n : Nat) : Quoted.isAsciiPrintable (Hex.digit n) = true := by
  have digits : ∀ d < 16, Quoted.isAsciiPrintable (Nat.digitChar d) = true := by decide
  exact digits (n % 16) (Nat.mod_lt n (by decide))

theorem arePrintable_unitEscape (n : Nat) : ArePrintable (unitEscape n) := by
  refine arePrintable_cons rfl (arePrintable_cons rfl ?_)
  have digits (width n : Nat) : ArePrintable (Quoted.hexDigits width n) := by
    induction width generalizing n with
    | zero => exact nofun
    | succ width ih => exact (ih _).append (List.forall_mem_singleton.mpr (isAsciiPrintable_digit n))
  exact digits 4 n

theorem arePrintable_escaped (c : Char) : ArePrintable (escaped c) := by
  unfold escaped
  split_ifs with mark plain
  · rcases mark with rfl | rfl <;> exact arePrintable_cons rfl (List.forall_mem_singleton.mpr rfl)
  · exact List.forall_mem_singleton.mpr plain
  any_goals exact arePrintable_cons rfl (List.forall_mem_singleton.mpr rfl)
  rw [wideEscape]
  split
  · exact arePrintable_unitEscape _
  · exact (arePrintable_unitEscape _).append (arePrintable_unitEscape _)

theorem prints_quote (s : String) : Prints (.name s) (quote s).toList := by
  refine ⟨spells_quote s, ?_⟩
  rw [quote, String.toList_ofList]
  refine ArePrintable.append (arePrintable_cons rfl ?_) (List.forall_mem_singleton.mpr rfl)
  intro d member
  obtain ⟨c, _, within⟩ := List.mem_flatMap.mp member
  exact arePrintable_escaped c d within

theorem exists_write_int {n : Int} (short : n.natAbs < Decimal.tooLong) :
    ∃ t, write? (.int n) = some t ∧ Prints (.value (.int n)) t.toList := by
  have text : (toString n).toList = sign (n < 0) ++ Nat.toDigits 10 n.natAbs := by
    cases n with
    | ofNat n => exact toList_toString n
    | negSucc n =>
      have split : toString (Int.negSucc n) = "-" ++ toString (n + 1) := rfl
      rw [split, String.toList_append, toList_toString, decide_eq_true (Int.negSucc_lt_zero n)]
      rfl
  have few : (Nat.toDigits 10 n.natAbs).length ≤ Decimal.digitLimit := by
    unfold Decimal.tooLong at short
    have some : 0 < Decimal.digitLimit := by decide
    generalize Decimal.digitLimit = limit at short some ⊢
    exact (Nat.length_toDigits_le_iff (by decide) some).mpr short
  have spells := Spells.int (n < 0) (areWhole_toDigits n.natAbs) few
  have same : (if decide (n < 0) = true then -(digitsValue (Nat.toDigits 10 n.natAbs) : Int)
      else digitsValue (Nat.toDigits 10 n.natAbs)) = n := by
    rw [digitsValue_toDigits]
    split
    · rename_i negative
      have negative := of_decide_eq_true negative
      omega
    · rename_i positive
      have positive : ¬n < 0 := fun negative => positive (decide_eq_true negative)
      omega
  rw [same] at spells
  refine ⟨toString n, ?_, ?_⟩
  · rw [write?, Decimal.text?, if_pos short]
  · rw [text]
    exact ⟨spells, (arePrintable_sign _).append (arePrintable_of_digits (areDigits_toDigits _).2)⟩

/-- Texts with commas between them. -/
def separated (ts : List String) : List Char := [','].intercalate (ts.map String.toList)

theorem separated_cons_cons (t u : String) (ts : List String) :
    separated (t :: u :: ts) = t.toList ++ ',' :: separated (u :: ts) := by
  rw [separated, List.map_cons, List.map_cons, List.intercalate_cons_cons, List.append_assoc]
  rfl

theorem separated_singleton (t : String) : separated [t] = t.toList := List.intercalate_singleton

theorem toList_bracketed (before after : String) (ts : List String) :
    (bracketed before after ts).toList = before.toList ++ separated ts ++ after.toList := by
  rw [bracketed, String.toList_append, String.toList_append, String.toList_intercalate]
  rfl

theorem exists_writeAll {v : Value} {vs : List Value}
    (each : ∀ w ∈ v :: vs, ∃ t, write? w = some t ∧ Prints (.value w) t.toList) :
    ∃ t ts, writeAll? (v :: vs) = some (t :: ts) ∧ Prints (.items (v :: vs)) (separated (t :: ts)) := by
  induction vs generalizing v with
  | nil =>
    obtain ⟨t, written, first⟩ := each v List.mem_cons_self
    refine ⟨t, [], ?_, ?_⟩
    · rw [writeAll?, written, writeAll?]
      rfl
    · rw [separated_singleton]
      exact ⟨.lastItem first.spells, first.printable⟩
  | cons w vs ih =>
    obtain ⟨⟨t, written, first⟩, later⟩ := List.forall_mem_cons.mp each
    obtain ⟨u, ts, rest, others⟩ := ih later
    refine ⟨t, u :: ts, ?_, ?_⟩
    · rw [writeAll?, written, rest]
      rfl
    · rw [separated_cons_cons]
      exact ⟨.item first.spells others.spells, first.printable.append (arePrintable_cons rfl others.printable)⟩

theorem exists_writeEntries {f : String × Value} {fs : Fields}
    (each : ∀ g ∈ f :: fs, ∃ t, write? g.2 = some t ∧ Prints (.value g.2) t.toList) :
    ∃ t ts, writeEntries? (Value.ofFields (f :: fs)) = some (t :: ts) ∧
      Prints (.members (f :: fs)) (separated (t :: ts)) := by
  induction fs generalizing f with
  | nil =>
    obtain ⟨name, v⟩ := f
    obtain ⟨t, written, first⟩ := each (name, v) List.mem_cons_self
    obtain ⟨spelled, printable⟩ := prints_quote name
    refine ⟨quote name ++ ":" ++ t, [], ?_, ?_⟩
    · rw [Value.ofFields, List.map_singleton, writeEntries?, keyText?, written, writeEntries?]
      rfl
    · rw [separated_singleton, String.toList_append, String.toList_append, List.append_assoc]
      exact ⟨.lastMember spelled first.spells, printable.append (arePrintable_cons rfl first.printable)⟩
  | cons g fs ih =>
    obtain ⟨⟨t, written, first⟩, later⟩ := List.forall_mem_cons.mp each
    obtain ⟨name, v⟩ := f
    obtain ⟨u, ts, rest, others⟩ := ih later
    obtain ⟨spelled, printable⟩ := prints_quote name
    refine ⟨quote name ++ ":" ++ t, u :: ts, ?_, ?_⟩
    · have entries : Value.ofFields ((name, v) :: g :: fs) = (.text name, v) :: Value.ofFields (g :: fs) := rfl
      rw [entries, writeEntries?, keyText?, written, rest]
      rfl
    · rw [separated_cons_cons, String.toList_append, String.toList_append, List.append_assoc, List.append_assoc]
      refine ⟨.member spelled first.spells others.spells, printable.append (arePrintable_cons rfl ?_)⟩
      exact first.printable.append (arePrintable_cons rfl others.printable)

/-- Every such value is written, in printable ASCII characters and in one of its spellings. -/
theorem Faithful.exists_write {v : Value} (faithful : Faithful v) :
    ∃ t, write? v = some t ∧ Prints (.value v) t.toList := by
  induction faithful with
  | null => exact ⟨"null", by rw [write?], .null, by decide⟩
  | bool b =>
    refine ⟨boolText b, by rw [write?], ?_⟩
    cases b with
    | false => exact ⟨.bool false, by decide⟩
    | true => exact ⟨.bool true, by decide⟩
  | int short => exact exists_write_int short
  | @float x finite =>
    refine ⟨x.text, ?_, prints_text finite⟩
    cases x with
    | finite => rw [write?]; rfl
    | _ => cases finite
  | text s =>
    obtain ⟨spells, printable⟩ := prints_quote s
    exact ⟨quote s, by rw [write?], .text spells, printable⟩
  | @list vs items ih =>
    cases vs with
    | nil =>
      refine ⟨"[]", ?_, .emptyList (List.forall_mem_nil _), by decide⟩
      rw [write?, writeAll?]
      rfl
    | cons v vs =>
      obtain ⟨t, ts, written, spells, printable⟩ := exists_writeAll ih
      refine ⟨bracketed "[" "]" (t :: ts), by rw [write?, written]; rfl, ?_⟩
      rw [toList_bracketed]
      exact ⟨.list spells, (arePrintable_cons rfl printable).append (List.forall_mem_singleton.mpr rfl)⟩
  | @dict fs distinct values ih =>
    cases fs with
    | nil =>
      refine ⟨"\x7b\x7d", ?_, .emptyObject (List.forall_mem_nil _), by decide⟩
      rw [Value.ofFields, List.map_nil, write?, writeEntries?]
      rfl
    | cons f fs =>
      obtain ⟨t, ts, written, spells, printable⟩ := exists_writeEntries ih
      refine ⟨bracketed "\x7b" "\x7d" (t :: ts), by rw [write?, written]; rfl, ?_⟩
      rw [toList_bracketed]
      exact ⟨.object spells distinct, (arePrintable_cons rfl printable).append (List.forall_mem_singleton.mpr rfl)⟩

/-- Such a value is read back from what is written of it, unless it is nested too deeply. -/
theorem Faithful.exists_read {v : Value} (faithful : Faithful v) (shallow : v.depth ≤ depthLimit) :
    ∃ t, write? v = some t ∧ ArePrintable t.toList ∧ read t.toList = .ok v := by
  obtain ⟨t, written, spells, printable⟩ := faithful.exists_write
  exact ⟨t, written, printable, read_of_spells spells shallow⟩

end Json
end AccountInput
