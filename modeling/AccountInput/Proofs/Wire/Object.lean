import AccountInput.Proofs.Cbor.Canonical
import AccountInput.Proofs.Wire.Record
import AccountInput.Proofs.Wire.Version

namespace AccountInput

def Amount.word (a : Amount) : Fin UInt64.size := ⟨a.val, a.lt⟩

def BlockTime.word (t : BlockTime) : Fin UInt64.size := ⟨t.val, t.lt⟩

/-- The words of a schedule, in the order of its fields. -/
def Schedule.words (d : Schedule) : List (Fin UInt64.size) :=
  [d.initialMinimumBalance.word, d.cliffTime.word, d.cliffAmount.word, d.vestingPeriod.word,
    d.vestingIncrement.word]

namespace Wire

theorem Unwraps.keysDistinct {s : Schema} {v content : Value} {k : Int} (holds : Unwraps s v k content)
    (distinct : v.keysDistinct = true) : content.keysDistinct = true := by
  cases s with
  | v0 =>
    obtain ⟨es, entries, perm⟩ := holds
    have entry : (.text contentName, content) ∈ es :=
      perm.mem_iff.mpr (List.mem_cons_of_mem _ (List.mem_cons_self ..))
    exact (Value.distinct_of_entries? distinct entries).2 _ entry
  | v1 => exact holds.2 ▸ distinct

/-- What gives an item in the form of a schema holds, under the one version, what gives the item. -/
theorem wrapItem_givenBy_iff {s : Schema} {i : Cbor.Item} {v : Value} :
    (wrapItem s i).toValue.GivenBy v ↔ ∃ content, Unwraps s v 1 content ∧ i.toValue.GivenBy content := by
  cases s with
  | v0 =>
    have fields : (wrapItem .v0 i).toValue =
        .dict (Value.ofFields ([versionName, contentName].zip [.int 1, i.toValue])) := by
      rw [wrapItem, envelopeItem, Cbor.Item.toValue_map]
      simp only [List.map_cons, List.map_nil, Cbor.Item.toValue]
      rfl
    rw [fields, Value.givenBy_dict_iff rfl]
    constructor
    · rintro ⟨es, _, entries, perm, _ | ⟨version, _ | ⟨held, ⟨⟩⟩⟩⟩
      cases Value.givenBy_int_iff.mp version
      exact ⟨_, ⟨es, entries, perm⟩, held⟩
    · rintro ⟨content, ⟨es, entries, perm⟩, held⟩
      exact ⟨es, [.int 1, content], entries, perm, .cons (Value.givenBy_int_iff.mpr rfl) (.cons held .nil)⟩
  | v1 =>
    constructor
    · exact fun held => ⟨v, ⟨rfl, rfl⟩, held⟩
    · rintro ⟨_, ⟨_, rfl⟩, held⟩
      exact held

theorem wrapItem_word_givenBy_iff {s : Schema} {n : Fin UInt64.size} {v : Value} :
    (wrapItem s (.word n)).toValue.GivenBy v ↔ Unwraps s v 1 (.int n.val) := by
  rw [wrapItem_givenBy_iff]
  simp only [Cbor.Item.toValue, Value.givenBy_int_iff]
  constructor
  · rintro ⟨_, holds, rfl⟩
    exact holds
  · exact fun holds => ⟨_, holds, rfl⟩

/-- A map whose entries are the fields of a schedule, each of which holds its word. -/
def HoldsWords (s : Schema) (map : Value) (d : Schedule) : Prop :=
  ∃ es values, map.entries? = some es ∧ es.Perm (Value.ofFields (Value.scheduleFields.zip values)) ∧
    List.Forall₂ (fun n v => Unwraps s v 1 (.int (n : Fin UInt64.size).val)) d.words values

/-- The fields of a schedule as items in the form of a schema. -/
def fieldItems (s : Schema) (d : Schedule) : List (String × Cbor.Item) :=
  Value.scheduleFields.zip (d.words.map fun n => wrapItem s (.word n))

theorem toItem_eq (d : Schedule) (s : Schema) : d.toItem s = wrapItem s (.map (fieldItems s d)) := rfl

theorem toItem_givenBy_iff {s : Schema} {d : Schedule} {v : Value} :
    (d.toItem s).toValue.GivenBy v ↔ ∃ map, Unwraps s v 1 map ∧ HoldsWords s map d := by
  have fields : (Cbor.Item.map (fieldItems s d)).toValue =
      .dict (Value.ofFields (Value.scheduleFields.zip (d.words.map fun n => (wrapItem s (.word n)).toValue))) :=
    Cbor.Item.toValue_map _
  rw [toItem_eq, wrapItem_givenBy_iff, fields]
  refine exists_congr fun map => and_congr_right fun _ => ?_
  rw [Value.givenBy_dict_iff rfl, HoldsWords]
  simp only [List.forall₂_map_left_iff, wrapItem_word_givenBy_iff]

/-- Entries of which one is a word under a name. -/
def HoldsWord (s : Schema) (es : List (Value × Value)) (name : String) (n : Nat) : Prop :=
  ∃ v, Value.get? es name = some v ∧ Unwraps s v 1 (.int n)

theorem word_held_iff {W : Type} {read : Value → Except Fault W} {val : W → Nat}
    (reads : ∀ {v a}, read v = .ok a ↔ v = .int (val a)) {s : Schema} {es : List (Value × Value)} {name : String}
    {a : W} :
    (∃ record, scalar s es name = .ok record ∧ wordOf read s record name = .ok a) ↔ HoldsWord s es name (val a) := by
  constructor
  · rintro ⟨_, scalar, word⟩
    obtain ⟨v, found, k, n, holds, rfl⟩ := scalar_eq_ok_iff.mp scalar
    obtain ⟨right, rfl⟩ := (wordOf_eq_ok_iff reads).mp word
    exact ⟨v, found, unwraps_one_iff.mpr ⟨k, holds, right⟩⟩
  · rintro ⟨v, found, holds⟩
    exact ⟨_, scalar_eq_ok_iff.mpr ⟨v, found, 1, val a, holds, rfl⟩, (wordOf_eq_ok_iff reads).mpr ⟨fun _ => rfl, rfl⟩⟩

/-- The fields of a schedule are read one by one, first as scalars and then as words. -/
theorem recordOfEntries_read_iff {s : Schema} {es : List (Value × Value)} {k : Int} {d : Schedule} :
    (∃ record, recordOfEntries s es = .ok record ∧ Schedule.ofRecord s (wrapped s record (.int k)) = .ok d) ↔
      (s = .v0 → k = 1) ∧ HoldsWord s es "initial_minimum_balance" d.initialMinimumBalance.val ∧
        HoldsWord s es "cliff_time" d.cliffTime.val ∧ HoldsWord s es "cliff_amount" d.cliffAmount.val ∧
        HoldsWord s es "vesting_period" d.vestingPeriod.val ∧
        HoldsWord s es "vesting_increment" d.vestingIncrement.val := by
  simp only [← word_held_iff amount_eq_ok_iff, ← word_held_iff blockTime_eq_ok_iff, recordOfEntries, bind_eq_ok_iff]
  constructor
  · rintro ⟨_, ⟨a, ra, b, rb, c, rc, e, re, f, rf, same⟩, read⟩
    cases same
    obtain ⟨right, ha, hb, hc, he, hf⟩ := ofRecord_schedule_eq_ok_iff.mp read
    exact ⟨right, ⟨a, ra, ha⟩, ⟨b, rb, hb⟩, ⟨c, rc, hc⟩, ⟨e, re, he⟩, ⟨f, rf, hf⟩⟩
  · rintro ⟨right, ⟨a, ra, ha⟩, ⟨b, rb, hb⟩, ⟨c, rc, hc⟩, ⟨e, re, he⟩, ⟨f, rf, hf⟩⟩
    exact ⟨_, ⟨a, ra, b, rb, c, rc, e, re, f, rf, rfl⟩,
      ofRecord_schedule_eq_ok_iff.mpr ⟨right, ha, hb, hc, he, hf⟩⟩

theorem holdsWord_iff {s : Schema} {es : List (Value × Value)} {fields : List (String × Value)}
    (are : AreFields es fields) {name : String} {v : Value} (member : (name, v) ∈ fields) {n : Nat} :
    HoldsWord s es name n ↔ Unwraps s v 1 (.int n) := by
  rw [HoldsWord, are.get? member]
  constructor
  · rintro ⟨_, ⟨⟩, holds⟩
    exact holds
  · exact fun holds => ⟨v, rfl, holds⟩

theorem words_held_iff {s : Schema} {es : List (Value × Value)} {a b c e f : Value}
    (are : AreFields es (Value.scheduleFields.zip [a, b, c, e, f])) {d : Schedule} :
    (HoldsWord s es "initial_minimum_balance" d.initialMinimumBalance.val ∧
      HoldsWord s es "cliff_time" d.cliffTime.val ∧ HoldsWord s es "cliff_amount" d.cliffAmount.val ∧
      HoldsWord s es "vesting_period" d.vestingPeriod.val ∧
      HoldsWord s es "vesting_increment" d.vestingIncrement.val) ↔
      List.Forall₂ (fun n v => Unwraps s v 1 (.int (n : Fin UInt64.size).val)) d.words [a, b, c, e, f] := by
  rw [holdsWord_iff are (.head _), holdsWord_iff are (.tail _ (.head _)),
    holdsWord_iff are (.tail _ (.tail _ (.head _))), holdsWord_iff are (.tail _ (.tail _ (.tail _ (.head _)))),
    holdsWord_iff are (.tail _ (.tail _ (.tail _ (.tail _ (.head _)))))]
  simp only [Schedule.words, Amount.word, BlockTime.word, List.forall₂_cons, List.Forall₂.nil, and_true]

/-- The record of a schedule is read, as an object and then as a record, where the object gives it. -/
theorem dataOfObject_read_iff {s : Schema} {v : Value} (distinct : v.keysDistinct = true) {d : Schedule} :
    (∃ record, dataOfObject s v = .ok record ∧ Schedule.ofRecord s record = .ok d) ↔
      (d.toItem s).toValue.GivenBy v := by
  rw [toItem_givenBy_iff]
  simp only [dataOfObject, bind_eq_ok_iff]
  constructor
  · rintro ⟨_, ⟨⟨_, map⟩, split, es, checked, record, fields, same⟩, read⟩
    cases same
    obtain ⟨k, rfl, holds⟩ := (parts_eq_ok_iff _).mp split
    obtain ⟨entries, complete, known⟩ := (recordEntries_eq_ok_iff _).mp checked
    have keys := (Value.distinct_of_entries? (holds.keysDistinct distinct) entries).1
    obtain ⟨a, b, c, e, f, are⟩ := areFields_of_missing_extra complete known keys
    obtain ⟨right, words⟩ := recordOfEntries_read_iff.mp ⟨record, fields, read⟩
    exact ⟨map, unwraps_one_iff.mpr ⟨k, holds, right⟩, es, _, entries, are.1, (words_held_iff are).mp words⟩
  · rintro ⟨map, holds, es, values, entries, perm, words⟩
    obtain ⟨a, b, c, e, f, rfl⟩ : ∃ a b c e f, values = [a, b, c, e, f] := by
      rcases words with _ | ⟨_, _ | ⟨_, _ | ⟨_, _ | ⟨_, _ | ⟨_, ⟨⟩⟩⟩⟩⟩⟩
      exact ⟨_, _, _, _, _, rfl⟩
    have are : AreFields es _ := ⟨perm, rfl⟩
    obtain ⟨record, fields, read⟩ :=
      (recordOfEntries_read_iff (k := 1)).mpr ⟨fun _ => rfl, (words_held_iff are).mpr words⟩
    have split := (parts_eq_ok_iff (Value.recordName "TimedData" s)).mpr ⟨1, rfl, holds⟩
    have checked := (recordEntries_eq_ok_iff (Value.recordName "TimedData" s)).mpr
      ⟨entries, missing_extra_of_areFields are⟩
    exact ⟨_, ⟨(_, map), split, es, checked, record, fields, rfl⟩, read⟩

/-- What gives timing after the name of its variant. -/
def VariantGivenBy (s : Schema) : Timing → Option Value → Prop
  | .untimed, none => True
  | .timed d, some data => (d.toItem s).toValue.GivenBy data
  | _, _ => False

theorem toObject_givenBy_iff {s : Schema} {t : Timing} {v : Value} :
    (t.toObject s).GivenBy v ↔
      ∃ content body, Unwraps s v 1 content ∧ content.items? = some (variantItems body) ∧ VariantGivenBy s t body := by
  cases t with
  | untimed =>
    rw [Timing.toObject, Timing.toItem, wrapItem_givenBy_iff]
    simp only [Cbor.Item.toValue, Cbor.Item.allToValue, Value.givenBy_list_iff]
    constructor
    · rintro ⟨content, holds, _, items, _ | ⟨name, ⟨⟩⟩⟩
      cases Value.givenBy_text_iff.mp name
      exact ⟨content, none, holds, items, trivial⟩
    · rintro ⟨content, _ | data, holds, items, given⟩
      · exact ⟨content, holds, _, items, .cons (Value.givenBy_text_iff.mpr rfl) .nil⟩
      · exact given.elim
  | timed d =>
    rw [Timing.toObject, Timing.toItem, wrapItem_givenBy_iff]
    simp only [Cbor.Item.toValue, Cbor.Item.allToValue, Value.givenBy_list_iff]
    constructor
    · rintro ⟨content, holds, _, items, _ | ⟨name, _ | ⟨given, ⟨⟩⟩⟩⟩
      cases Value.givenBy_text_iff.mp name
      exact ⟨content, some _, holds, items, given⟩
    · rintro ⟨content, _ | data, holds, items, given⟩
      · exact given.elim
      · exact ⟨content, holds, _, items, .cons (Value.givenBy_text_iff.mpr rfl) (.cons given .nil)⟩

/-- An object is read as timing if and only if it gives the object of that timing. -/
theorem ofObject_eq_ok_iff_givenBy {s : Schema} {v : Value} (distinct : v.keysDistinct = true) {t : Timing} :
    Timing.ofObject s v = .ok t ↔ (t.toObject s).GivenBy v := by
  rw [toObject_givenBy_iff, Timing.ofObject, recordOfObject_eq]
  simp only [bind_eq_ok_iff]
  constructor
  · rintro ⟨record, ⟨⟨_, content⟩, split, body, variant, made⟩, read⟩
    obtain ⟨k, rfl, holds⟩ := (parts_eq_ok_iff _).mp split
    have items := (variantBody_eq_ok_iff _).mp variant
    cases body with
    | none =>
      cases made
      obtain ⟨right, rfl⟩ := ofRecord_untimed_eq_ok_iff.mp read
      exact ⟨content, none, unwraps_one_iff.mpr ⟨k, holds, right⟩, items, trivial⟩
    | some data =>
      obtain ⟨inner, opened, same⟩ := ok_of_bind made
      cases same
      obtain ⟨right, d, given, rfl⟩ := ofRecord_timed_eq_ok_iff.mp read
      have within : data.keysDistinct = true :=
        Value.keysDistinct_of_items? (holds.keysDistinct distinct) items (.tail _ (.head _))
      exact ⟨content, some data, unwraps_one_iff.mpr ⟨k, holds, right⟩, items,
        (dataOfObject_read_iff within).mp ⟨inner, opened, given⟩⟩
  · rintro ⟨content, body, holds, items, given⟩
    have split := (parts_eq_ok_iff (Value.recordName "Timing" s)).mpr ⟨1, rfl, holds⟩
    have variant := (variantBody_eq_ok_iff (Value.recordName "Timing" s)).mpr items
    cases body with
    | none =>
      cases t with
      | untimed =>
        exact ⟨_, ⟨(_, content), split, none, variant, rfl⟩, ofRecord_untimed_eq_ok_iff.mpr ⟨fun _ => rfl, rfl⟩⟩
      | timed d => exact given.elim
    | some data =>
      cases t with
      | untimed => exact given.elim
      | timed d =>
        have within : data.keysDistinct = true :=
          Value.keysDistinct_of_items? (holds.keysDistinct distinct) items (.tail _ (.head _))
        obtain ⟨inner, opened, read⟩ := (dataOfObject_read_iff within).mpr given
        have made : (dataOfObject s data >>= fun record => pure (wrapped s (.timedRecord s record) (.int 1))) =
            Except.ok (wrapped s (.timedRecord s inner) (.int 1)) := bind_eq_ok_iff.mpr ⟨inner, opened, rfl⟩
        exact ⟨_, ⟨(_, content), split, some data, variant, made⟩,
          ofRecord_timed_eq_ok_iff.mpr ⟨fun _ => rfl, d, read, rfl⟩⟩

/-- Objects are read strictly, under either version: one that gives the object of some timing is read
as that timing, and every other is refused. -/
theorem ofObject_eq_ok_iff_toObject (w : Surroundings) (s : Schema) {v : Value} (distinct : v.keysDistinct = true) :
    (∀ t, ofObject w v s.version = .ok t ↔
      ∃ object, toObject w (.timing t) s.version = .ok object ∧ object.GivenBy v) ∧
    ((∃ f, ofObject w v s.version = .error f) ↔
      ∀ t object, toObject w (.timing t) s.version = .ok object → ¬object.GivenBy v) := by
  have read (t : Timing) : ofObject w v s.version = .ok t ↔
      ∃ object, toObject w (.timing t) s.version = .ok object ∧ object.GivenBy v := by
    simp only [ofObject_version, toObject_version, ofObject_eq_ok_iff_givenBy distinct, Except.ok.injEq,
      exists_eq_left']
  refine ⟨read, ?_⟩
  constructor
  · rintro ⟨f, refused⟩ t object written given
    have accepted := (read t).mpr ⟨object, written, given⟩
    rw [refused] at accepted
    cases accepted
  · intro none
    cases outcome : ofObject w v s.version with
    | error f => exact ⟨f, rfl⟩
    | ok t =>
      obtain ⟨object, written, given⟩ := (read t).mp outcome
      exact absurd given (none t object written)

/-- The entries may stand in any order, and a tuple for the variant. -/
theorem ofObject_reordered :
    (Value.tuple [.text "Timed", .dict (Value.ofFields [("vesting_increment", .int 5), ("vesting_period", .int 4),
      ("cliff_amount", .int 3), ("cliff_time", .int 2), ("initial_minimum_balance", .int 1)])]).keysDistinct = true ∧
    ofObject (withoutFiles [])
      (.tuple [.text "Timed", .dict (Value.ofFields [("vesting_increment", .int 5), ("vesting_period", .int 4),
        ("cliff_amount", .int 3), ("cliff_time", .int 2), ("initial_minimum_balance", .int 1)])]) Schema.v1.version =
      .ok (.timed ⟨⟨1, by decide⟩, ⟨2, by decide⟩, ⟨3, by decide⟩, ⟨4, by decide⟩, ⟨5, by decide⟩⟩) := by
  have distinct : (Value.tuple [.text "Timed", .dict (Value.ofFields [("vesting_increment", .int 5),
      ("vesting_period", .int 4), ("cliff_amount", .int 3), ("cliff_time", .int 2),
      ("initial_minimum_balance", .int 1)])]).keysDistinct = true := by
    simp [Value.distinctKeys, Value.ofFields, Value.sameKey_text]
  refine ⟨distinct, ((ofObject_eq_ok_iff_toObject _ .v1 distinct).1 _).mpr ⟨_, toObject_version _ _ .v1, ?_⟩⟩
  refine ⟨_, rfl, Value.givenBy_text_iff.mpr rfl, ⟨_, _, rfl, (List.reverse_perm _).symm, ?_⟩, trivial⟩
  exact ⟨rfl, rfl, rfl, rfl, rfl, rfl, rfl, rfl, rfl, rfl, trivial⟩

end Wire
end AccountInput
