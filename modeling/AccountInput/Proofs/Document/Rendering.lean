import AccountInput.Proofs.Document.Timing
import AccountInput.Proofs.Json.Digits
import AccountInput.Proofs.Json.Quoted
import AccountInput.Proofs.Value.Data

namespace AccountInput

namespace Document

/-- A text that renders a number: its decimal digits after any number of zeros, with a plus sign before them or
without one, and no more digits than are read. -/
def Renders (s : String) (n : Nat) : Prop :=
  ∃ zeros, zeros + (toString n).toList.length ≤ Decimal.digitLimit ∧
    (s.toList = List.replicate zeros '0' ++ (toString n).toList ∨
      s.toList = '+' :: (List.replicate zeros '0' ++ (toString n).toList))

/-- An object in which a rendering of a number stands under a key. -/
def RendersUnder (ms : List (Value × Value)) (key : String) (n : Nat) : Prop :=
  ∃ v s, Value.get? ms key = some v ∧ v.text? = some s ∧ Renders s n

theorem digitsValue_rendered (zeros n : Nat) :
    Json.digitsValue (List.replicate zeros '0' ++ (toString n).toList) = n := by
  rw [Json.digitsValue_append, Json.digitsValue_zeros, Nat.mul_zero, Nat.zero_add, Json.toList_toString,
    Json.digitsValue_toDigits]

theorem isDigit_rendered {zeros n : Nat} : ∀ c ∈ List.replicate zeros '0' ++ (toString n).toList,
    Json.isDigit c = true := by
  intro c member
  rcases List.mem_append.mp member with zero | digit
  · rw [List.eq_of_mem_replicate zero]
    rfl
  · rw [Json.toList_toString] at digit
    exact (Json.areDigits_toDigits n).2 c digit

theorem Renders.exists_spells {s : String} {n : Nat} (renders : Renders s n) :
    ∃ digits, Spells s digits ∧ Json.digitsValue digits = n ∧ digits.length ≤ Decimal.digitLimit := by
  obtain ⟨zeros, few, spelled⟩ := renders
  refine ⟨_, ⟨?_, isDigit_rendered, spelled⟩, digitsValue_rendered zeros n, ?_⟩
  · rw [Json.toList_toString]
    exact List.append_ne_nil_of_right_ne_nil _ Nat.toDigits_ne_nil
  · rwa [List.length_append, List.length_replicate]

theorem renders_toString {n : Nat} (range : n < UInt64.size) : Renders (toString n) n := by
  refine ⟨0, ?_, .inl rfl⟩
  rw [Json.toList_toString, Nat.zero_add]
  have few : n < 10 ^ 20 := Nat.lt_trans range (by decide)
  exact Nat.le_trans ((Nat.length_toDigits_le_iff (by decide) (by decide)).mpr few) (by decide)

variable {ms : List (Value × Value)} {d : Schedule}

theorem RendersUnder.holds {key : String} {n : Nat} (renders : RendersUnder ms key n) (range : n < UInt64.size) :
    ¬LongUnder ms key ∧ Holds ms key n := by
  obtain ⟨v, s, found, text, renders⟩ := renders
  obtain ⟨digits, spells, value, few⟩ := renders.exists_spells
  have spelled : SpelledUnder ms key digits := ⟨v, s, found, text, spells⟩
  exact ⟨spelled.longUnder_iff.not.mpr (Nat.not_lt.mpr few), digits, spelled, value, range⟩

theorem schedule_of_renders (renders : List.Forall₂ (RendersUnder ms) scheduleKeys d.scalars) :
    schedule ms = .ok d := by
  rw [schedule_eq_ok_iff, ← List.forall₂_and_left]
  simp only [scheduleKeys, Schedule.scalars, List.forall₂_cons, List.Forall₂.nil, and_true] at renders ⊢
  obtain ⟨a, b, c, e, f⟩ := renders
  exact ⟨a.holds d.initialMinimumBalance.lt, b.holds d.cliffTime.lt, c.holds d.cliffAmount.lt,
    e.holds d.vestingPeriod.lt, f.holds d.vestingIncrement.lt⟩

theorem renders_toDocument (d : Schedule) : List.Forall₂ (RendersUnder d.toDocument) scheduleKeys d.scalars := by
  have under {key : String} {n : Nat} (range : n < UInt64.size)
      (found : Fields.get? (scheduleKeys.zip (d.scalars.map fun n => .text (toString n))) key =
        some (.text (toString n))) : RendersUnder d.toDocument key n := by
    rw [← Value.get?_ofFields] at found
    exact ⟨_, _, found, rfl, renders_toString range⟩
  simp only [scheduleKeys, Schedule.scalars, List.forall₂_cons, List.Forall₂.nil, and_true]
  exact ⟨under d.initialMinimumBalance.lt rfl, under d.cliffTime.lt rfl, under d.cliffAmount.lt rfl,
    under d.vestingPeriod.lt rfl, under d.vestingIncrement.lt rfl⟩

theorem toString?_ofString (s : String) : Utf8.toString? (Utf8.ofString s) = some s := by
  rw [Utf8.toString?, Utf8.ofString, Utf8.decode?_encode, Option.map_some, String.ofList_toList]

/-- A text and its bytes in UTF-8 are one document. -/
theorem members_ofString {form : ByteForm} (read : form = .fixed ∨ form = .growable) (s : String) :
    members (.bytes form (Utf8.ofString s)) = members (.text s) := by
  have text : textOfBytes (Utf8.ofString s) = .ok s := by rw [textOfBytes, toString?_ofString]
  rcases read with rfl | rfl <;> rw [members, text] <;> rfl

theorem readsAs_of_spells {s : String} (spells : Json.Spells (.value (.dict ms)) s.toList)
    (shallow : ∀ e ∈ ms, e.2.depth < Json.depthLimit) : ReadsAs (.text s) ms := by
  have room : (Value.dict ms).depth ≤ Json.depthLimit := by
    rw [Value.depth]
    exact Value.depthOfEntries_lt (by decide) shallow
  exact .inr ⟨s, _, rfl, Json.read_of_spells spells room, rfl⟩

end Document

open Document

/-- A schedule comes back from its document, and from every object, JSON text and UTF-8 text of one that renders its
numbers under the five keys, whatever else it has; and a text and its bytes are read alike, be they a document or
not. -/
theorem Schedule.ofDocument_rendered :
    (∀ d : Schedule, ofDocument (.dict d.toDocument) = .ok d) ∧
    (∀ (d : Schedule) (ms : List (Value × Value)), List.Forall₂ (RendersUnder ms) scheduleKeys d.scalars →
      (∀ doc : Value, doc.entries? = some ms → ofDocument doc = .ok d) ∧
      ∀ s : String, Json.Spells (.value (.dict ms)) s.toList → (∀ e ∈ ms, e.2.depth < 400) →
        ofDocument (.text s) = .ok d ∧ ofDocument (.bytes .fixed (Utf8.ofString s)) = .ok d ∧
          ofDocument (.bytes .growable (Utf8.ofString s)) = .ok d) ∧
    ∀ s : String, ofDocument (.bytes .fixed (Utf8.ofString s)) = ofDocument (.text s) ∧
      ofDocument (.bytes .growable (Utf8.ofString s)) = ofDocument (.text s) := by
  have alike {form : ByteForm} (read : form = .fixed ∨ form = .growable) (s : String) :
      ofDocument (.bytes form (Utf8.ofString s)) = ofDocument (.text s) := by
    rw [ofDocument, ofDocument, members_ofString read]
  have reads {doc : Value} {d : Schedule} {ms : List (Value × Value)} (there : ReadsAs doc ms)
      (renders : List.Forall₂ (RendersUnder ms) scheduleKeys d.scalars) : ofDocument doc = .ok d :=
    bind_eq_ok_iff.mpr ⟨ms, members_eq_ok_iff.mpr there, schedule_of_renders renders⟩
  refine ⟨fun d => reads (.inl rfl) (renders_toDocument d), fun d ms renders => ⟨fun doc object => ?_, ?_⟩, fun s => ?_⟩
  · exact reads (.inl object) renders
  · intro s spells shallow
    have below : ∀ e ∈ ms, e.2.depth < Json.depthLimit := fun e member =>
      Nat.lt_trans (shallow e member) (by decide)
    have text := reads (readsAs_of_spells spells below) renders
    exact ⟨text, (alike (.inl rfl) s).trans text, (alike (.inr rfl) s).trans text⟩
  · exact ⟨alike (.inl rfl) s, alike (.inr rfl) s⟩

/-- The numbers of a schedule out of order, one with a sign and zeros, and a member of another kind. -/
def shuffledFields : Fields :=
  [("cliffTime", .text "+0010"), ("vestingIncrement", .text "1"), ("note", .list [.null, .text "\n"]),
    ("initialMinimumBalance", .text "5"), ("vestingPeriod", .text "003"), ("cliffAmount", .text "2")]

def shuffledText : String :=
  "\x7b\"cliffTime\":\"+0010\",\"vestingIncrement\":\"1\",\"note\":[null,\"\\n\"],\"initialMinimumBalance\":\"5\"," ++
    "\"vestingPeriod\":\"003\",\"cliffAmount\":\"2\"\x7d"

theorem Schedule.ofDocument_shuffled :
    ofDocument (.bytes .growable (Utf8.ofString shuffledText)) = .ok ⟨⟨5, by decide⟩, ⟨10, by decide⟩, ⟨2, by decide⟩,
      ⟨3, by decide⟩, ⟨1, by decide⟩⟩ := by
  have found (key : String) : Value.get? (Value.ofFields shuffledFields) key = shuffledFields.get? key :=
    Value.get?_ofFields shuffledFields key
  have renders : List.Forall₂ (RendersUnder (Value.ofFields shuffledFields)) scheduleKeys [5, 10, 2, 3, 1] := by
    refine .cons ?_ (.cons ?_ (.cons ?_ (.cons ?_ (.cons ?_ .nil))))
    · exact ⟨_, "5", (found _).trans rfl, rfl, 0, by decide, .inl rfl⟩
    · exact ⟨_, "+0010", (found _).trans rfl, rfl, 2, by decide, .inr rfl⟩
    · exact ⟨_, "2", (found _).trans rfl, rfl, 0, by decide, .inl rfl⟩
    · exact ⟨_, "003", (found _).trans rfl, rfl, 2, by decide, .inl rfl⟩
    · exact ⟨_, "1", (found _).trans rfl, rfl, 0, by decide, .inl rfl⟩
  have text (s : String) : Json.Spells (.value (.text s)) (Json.quote s).toList := .text (Json.spells_quote s)
  have note : Json.Spells (.value (.list [.null, .text "\n"])) _ := .list (.item .null (.lastItem (text "\n")))
  have members : Json.Spells (.members shuffledFields) _ :=
    .member (Json.spells_quote _) (text _) <| .member (Json.spells_quote _) (text _) <|
      .member (Json.spells_quote _) note <| .member (Json.spells_quote _) (text _) <|
      .member (Json.spells_quote _) (text _) <| .lastMember (Json.spells_quote _) (text _)
  have spells : Json.Spells (.value (.dict (Value.ofFields shuffledFields))) shuffledText.toList := by
    refine (?_ : _ = shuffledText.toList) ▸ .object members (by decide)
    decide +kernel
  have shallow : ∀ e ∈ Value.ofFields shuffledFields, e.2.depth < 400 := by
    decide
  exact ((Schedule.ofDocument_rendered.2.1 _ _ renders).2 shuffledText spells shallow).2.2

end AccountInput
