import AccountInput.Proofs.Wire.Object
import AccountInput.Wire.Unwrapped

namespace AccountInput
namespace Wire

theorem allUnwrapped_eq_map (xs : List Value) : allUnwrapped xs = xs.map unwrapped := by
  induction xs with
  | nil => rfl
  | cons x xs ih => exact congrArg (List.cons (unwrapped x)) ih

theorem eachUnwrapped_eq_map (es : List (Value × Value)) :
    eachUnwrapped es = es.map fun e => (e.1, unwrapped e.2) := by
  induction es with
  | nil => rfl
  | cons e es ih => exact congrArg (List.cons (e.1, unwrapped e.2)) ih

theorem unwrapped_int (n : Int) : unwrapped (.int n) = .int n := rfl

theorem unwrapped_text (s : String) : unwrapped (.text s) = .text s := rfl

theorem unwrapped_list (xs : List Value) : unwrapped (.list xs) = .list (xs.map unwrapped) :=
  congrArg Value.list (allUnwrapped_eq_map xs)

theorem unwrapped_tuple (xs : List Value) : unwrapped (.tuple xs) = .tuple (xs.map unwrapped) :=
  congrArg Value.tuple (allUnwrapped_eq_map xs)

theorem unwrapped_dict (es : List (Value × Value)) :
    unwrapped (.dict es) = contentOr .dict (es.map fun e => (e.1, unwrapped e.2)) :=
  congrArg (contentOr .dict) (eachUnwrapped_eq_map es)

theorem unwrapped_frozenDict (es : List (Value × Value)) :
    unwrapped (.frozenDict es) = contentOr .frozenDict (es.map fun e => (e.1, unwrapped e.2)) :=
  congrArg (contentOr .frozenDict) (eachUnwrapped_eq_map es)

theorem allEnvelopeVersions_eq_flatMap (xs : List Value) : allEnvelopeVersions xs = xs.flatMap envelopeVersions := by
  induction xs with
  | nil => rfl
  | cons x xs ih => exact congrArg (envelopeVersions x ++ ·) ih

theorem eachEnvelopeVersions_ofFields (fields : List (String × Value)) :
    eachEnvelopeVersions (Value.ofFields fields) = fields.flatMap fun f => envelopeVersions f.2 := by
  induction fields with
  | nil => rfl
  | cons f fields ih => exact congrArg (envelopeVersions f.2 ++ ·) ih

theorem envelopeVersions_int (n : Int) : envelopeVersions (.int n) = [] := rfl

theorem envelopeVersions_text (s : String) : envelopeVersions (.text s) = [] := rfl

theorem envelopeVersions_list (xs : List Value) : envelopeVersions (.list xs) = xs.flatMap envelopeVersions :=
  allEnvelopeVersions_eq_flatMap xs

theorem envelopeVersions_dict (fields : List (String × Value)) :
    envelopeVersions (.dict (Value.ofFields fields)) = (envelope? (Value.ofFields fields)).toList.map (·.1) ++
      fields.flatMap fun f => envelopeVersions f.2 :=
  congrArg (_ ++ ·) (eachEnvelopeVersions_ofFields fields)

theorem envelope?_of_perm {es : List (Value × Value)} {version content : Value}
    (perm : es.Perm (Value.ofFields [(versionName, version), (contentName, content)])) :
    envelope? es = some (version, content) := by
  have distinct : ([(versionName, version), (contentName, content)].map (·.1)).Nodup := by
    change [versionName, contentName].Nodup
    decide
  have two : es.length = 2 := perm.length_eq
  rw [envelope?, if_pos two, Value.get?_of_perm perm distinct (.head _),
    Value.get?_of_perm perm distinct (.tail _ (.head _))]
  rfl

/-- Only a map of two entries is an envelope. -/
theorem envelope?_eq_none {es : List (Value × Value)} (length : es.length ≠ 2) : envelope? es = none := if_neg length

theorem items?_unwrapped {v : Value} {xs : List Value} (items : v.items? = some xs) :
    (unwrapped v).items? = some (xs.map unwrapped) := by
  cases v <;> cases items
  case list => exact congrArg Value.items? (unwrapped_list xs)
  case tuple => exact congrArg Value.items? (unwrapped_tuple xs)

theorem entries?_unwrapped {v : Value} {es : List (Value × Value)} (entries : v.entries? = some es)
    (length : es.length ≠ 2) : (unwrapped v).entries? = some (es.map fun e => (e.1, unwrapped e.2)) := by
  have whole : envelope? (es.map fun e => (e.1, unwrapped e.2)) = none :=
    envelope?_eq_none (by rwa [List.length_map])
  cases v <;> cases entries
  case dict => rw [unwrapped_dict, contentOr, whole, Value.entries?]
  case frozenDict => rw [unwrapped_frozenDict, contentOr, whole, Value.entries?]

theorem unwrapped_of_isEnvelope {v content : Value} {k : Int} (envelope : IsEnvelope v k content) :
    unwrapped v = unwrapped content := by
  obtain ⟨es, entries, perm⟩ := envelope
  have inside := perm.map fun e => (e.1, unwrapped e.2)
  have found : envelope? (es.map fun e => (e.1, unwrapped e.2)) = some (.int k, unwrapped content) := by
    refine envelope?_of_perm (inside.trans (List.Perm.of_eq ?_))
    rw [Value.ofFields, envelopeFields, List.map_map]
    simp only [List.map_cons, List.map_nil, Function.comp_apply, unwrapped_int]
    rfl
  cases v <;> cases entries
  case dict => rw [unwrapped_dict, contentOr, found]
  case frozenDict => rw [unwrapped_frozenDict, contentOr, found]

theorem unwrapped_enveloped (s : Schema) (v : Value) : unwrapped (enveloped s v) = unwrapped v := by
  cases s with
  | v0 => exact unwrapped_of_isEnvelope ⟨_, rfl, .refl _⟩
  | v1 => rfl

theorem Unwraps.keysDistinct_of_content {s : Schema} {v content : Value} {k : Int} (holds : Unwraps s v k content)
    (distinct : content.keysDistinct = true) : v.keysDistinct = true := by
  cases s with
  | v0 =>
    obtain ⟨es, entries, perm⟩ := holds
    refine Value.keysDistinct_of_perm entries perm (nodup_envelopeFields k content) fun f member => ?_
    rcases List.mem_pair.mp member with rfl | rfl
    · exact Value.keysDistinct_int k
    · exact distinct
  | v1 => exact holds.2 ▸ distinct

/-- Values that hold words in their order, each in the form of a schema. -/
def AreWords (s : Schema) (ns : List (Fin UInt64.size)) (values : List Value) : Prop :=
  List.Forall₂ (fun n v => Unwraps s v 1 (.int n.val)) ns values

theorem AreWords.keysDistinct {s : Schema} {ns : List (Fin UInt64.size)} {values : List Value}
    (words : AreWords s ns values) : ∀ v ∈ values, v.keysDistinct = true := by
  induction words with
  | nil => nofun
  | cons word _ ih =>
    exact List.forall_mem_cons.mpr ⟨word.keysDistinct_of_content (Value.keysDistinct_int _), ih⟩

theorem AreWords.unwrapped_eq {ns : List (Fin UInt64.size)} {values : List Value} (words : AreWords .v1 ns values) :
    ∀ v ∈ values, unwrapped v = v := by
  induction words with
  | nil => nofun
  | cons word _ ih => exact List.forall_mem_cons.mpr ⟨by rw [word.2, unwrapped_int], ih⟩

theorem AreWords.length_entries {s : Schema} {d : Schedule} {values : List Value} {es : List (Value × Value)}
    (words : AreWords s d.words values) (perm : es.Perm (Value.ofFields (Value.scheduleFields.zip values))) :
    es.length = 5 := by
  rw [perm.length_eq, Value.ofFields, List.length_map, List.length_zip, ← words.length_eq]
  rfl

theorem HoldsWords.keysDistinct {s : Schema} {map : Value} {d : Schedule} (holds : HoldsWords s map d) :
    map.keysDistinct = true := by
  obtain ⟨es, values, entries, perm, words⟩ := holds
  have names : (Value.scheduleFields.zip values).map Prod.fst = Value.scheduleFields :=
    List.map_fst_zip (Nat.le_of_eq words.length_eq)
  refine Value.keysDistinct_of_perm entries perm (names.symm ▸ nodup_scheduleFields) fun f member => ?_
  exact AreWords.keysDistinct words f.2 (List.of_mem_zip member).2

/-- What gives the object of some timing has distinct keys at every depth. -/
theorem keysDistinct_of_givenBy {s : Schema} {t : Timing} {v : Value} (given : (t.toObject s).GivenBy v) :
    v.keysDistinct = true := by
  obtain ⟨content, body, holds, items, variant⟩ := toObject_givenBy_iff.mp given
  refine holds.keysDistinct_of_content ((Value.keysDistinct_iff_of_items? items).mpr ?_)
  cases body with
  | none => exact List.forall_mem_singleton.mpr (Value.keysDistinct_text _)
  | some data =>
    refine List.forall_mem_cons.mpr ⟨Value.keysDistinct_text _, List.forall_mem_singleton.mpr ?_⟩
    cases t with
    | untimed => exact variant.elim
    | timed d =>
      obtain ⟨map, inside, words⟩ := toItem_givenBy_iff.mp variant
      exact inside.keysDistinct_of_content words.keysDistinct

theorem ofObject_of_givenBy {s : Schema} {t : Timing} {v : Value} (given : (t.toObject s).GivenBy v) :
    Timing.ofObject s v = .ok t :=
  (ofObject_eq_ok_iff_givenBy (keysDistinct_of_givenBy given)).mpr given

/-- Without their envelopes the words of a record of the first schema are those of one of the second. -/
theorem HoldsWords.unwrapped {map : Value} {d : Schedule} (holds : HoldsWords .v0 map d) :
    HoldsWords .v1 (unwrapped map) d := by
  obtain ⟨es, values, entries, perm, words⟩ := holds
  have five : es.length = 5 := AreWords.length_entries words perm
  refine ⟨_, values.map Wire.unwrapped, entries?_unwrapped entries (by omega), ?_, ?_⟩
  · have inside := perm.map fun e => (e.1, Wire.unwrapped e.2)
    rw [Value.ofFields, List.zip_map_right, List.map_map]
    rwa [Value.ofFields, List.map_map] at inside
  · refine List.forall₂_map_right_iff.mpr (words.imp fun n v word => ⟨rfl, ?_⟩)
    rw [unwrapped_of_isEnvelope word, unwrapped_int]

/-- What gives the object of timing under the first schema gives, without envelopes, that under the second. -/
theorem givenBy_unwrapped {t : Timing} {v : Value} (given : (t.toObject .v0).GivenBy v) :
    (t.toObject .v1).GivenBy (unwrapped v) := by
  obtain ⟨content, body, holds, items, variant⟩ := toObject_givenBy_iff.mp given
  have inside := items?_unwrapped items
  refine toObject_givenBy_iff.mpr ⟨unwrapped content, body.map unwrapped, ⟨rfl, unwrapped_of_isEnvelope holds⟩, ?_, ?_⟩
  · rw [inside]
    cases body <;> simp only [variantItems, List.map_cons, List.map_nil, unwrapped_text, Option.map]
  · cases t <;> cases body
    case untimed.none => trivial
    case timed.some d data =>
      obtain ⟨map, within, words⟩ := toItem_givenBy_iff.mp variant
      exact toItem_givenBy_iff.mpr ⟨unwrapped map, ⟨rfl, unwrapped_of_isEnvelope within⟩, words.unwrapped⟩
    all_goals exact variant.elim

theorem exists_unwrapped_of_items? {v : Value} {xs ys : List Value} (items : v.items? = some xs)
    (same : ys.map unwrapped = xs) : ∃ w, w.items? = some ys ∧ unwrapped w = v := by
  cases v <;> cases items
  case list => exact ⟨.list ys, rfl, by rw [unwrapped_list, same]⟩
  case tuple => exact ⟨.tuple ys, rfl, by rw [unwrapped_tuple, same]⟩

theorem exists_unwrapped_of_entries? {v : Value} {es fs : List (Value × Value)} (entries : v.entries? = some es)
    (length : es.length ≠ 2) (same : (fs.map fun e => (e.1, unwrapped e.2)) = es) :
    ∃ w, w.entries? = some fs ∧ unwrapped w = v := by
  have whole := envelope?_eq_none length
  cases v <;> cases entries
  case dict => exact ⟨.dict fs, rfl, by rw [unwrapped_dict, same, contentOr, whole]⟩
  case frozenDict => exact ⟨.frozenDict fs, rfl, by rw [unwrapped_frozenDict, same, contentOr, whole]⟩

theorem unwraps_enveloped (v : Value) : Unwraps .v0 (enveloped .v0 v) 1 v := ⟨_, rfl, .refl _⟩

/-- A record of the second schema is one of the first whose scalars have lost their envelopes. -/
theorem HoldsWords.exists_unwrapped {map : Value} {d : Schedule} (holds : HoldsWords .v1 map d) :
    ∃ old, HoldsWords .v0 old d ∧ Wire.unwrapped old = map := by
  obtain ⟨es, values, entries, perm, words⟩ := holds
  have five : es.length = 5 := AreWords.length_entries words perm
  have same : (es.map fun e => (e.1, enveloped .v0 e.2)).map (fun e => (e.1, Wire.unwrapped e.2)) = es := by
    rw [List.map_map]
    refine (List.map_congr_left fun e member => ?_).trans (List.map_id es)
    obtain ⟨f, field, rfl⟩ := List.mem_map.mp (perm.mem_iff.mp member)
    have value := AreWords.unwrapped_eq words f.2 (List.of_mem_zip field).2
    simp only [Function.comp_apply, unwrapped_enveloped, value, id]
  obtain ⟨old, atOld, gives⟩ := exists_unwrapped_of_entries? entries (by omega) same
  refine ⟨old, ⟨_, values.map (enveloped .v0), atOld, ?_, ?_⟩, gives⟩
  · have inside := perm.map fun e => (e.1, enveloped .v0 e.2)
    rw [Value.ofFields, List.zip_map_right, List.map_map]
    rwa [Value.ofFields, List.map_map] at inside
  · exact List.forall₂_map_right_iff.mpr (words.imp fun n v word => word.2 ▸ unwraps_enveloped _)

/-- What gives the object of timing under the second schema comes from what gives that under the first. -/
theorem exists_unwrapped_of_givenBy {t : Timing} {v : Value} (given : (t.toObject .v1).GivenBy v) :
    ∃ old, (t.toObject .v0).GivenBy old ∧ unwrapped old = v := by
  obtain ⟨_, body, ⟨_, rfl⟩, items, variant⟩ := toObject_givenBy_iff.mp given
  have variantOfOld : ∃ old, VariantGivenBy .v0 t old ∧ (variantItems old).map unwrapped = variantItems body := by
    cases t <;> cases body
    case untimed.none => exact ⟨none, trivial, by simp only [variantItems, List.map_cons, List.map_nil, unwrapped_text]⟩
    case timed.some d data =>
      obtain ⟨_, ⟨_, rfl⟩, words⟩ := toItem_givenBy_iff.mp variant
      obtain ⟨old, holds, gives⟩ := words.exists_unwrapped
      refine ⟨some (enveloped .v0 old), toItem_givenBy_iff.mpr ⟨old, unwraps_enveloped old, holds⟩, ?_⟩
      simp only [variantItems, List.map_cons, List.map_nil, unwrapped_text, unwrapped_enveloped, gives]
    all_goals exact variant.elim
  obtain ⟨old, variant, same⟩ := variantOfOld
  obtain ⟨content, oldItems, gives⟩ := exists_unwrapped_of_items? items same
  refine ⟨enveloped .v0 content, toObject_givenBy_iff.mpr ?_, ?_⟩
  · exact ⟨content, old, unwraps_enveloped content, oldItems, variant⟩
  rw [unwrapped_enveloped, gives]

/-- The entries of the record of a schedule, in the form of a schema. -/
def recordFields (s : Schema) (d : Schedule) : List (String × Value) :=
  Value.scheduleFields.zip (d.scalars.map fun n : Nat => enveloped s (.int n))

theorem toObject_untimed (s : Schema) : Timing.untimed.toObject s = enveloped s (.list [.text untimedName]) := by
  cases s <;> rfl

theorem toObject_timed (d : Schedule) (s : Schema) : (Timing.timed d).toObject s =
    enveloped s (.list [.text timedName, enveloped s (.dict (Value.ofFields (recordFields s d)))]) := by
  cases s <;> rfl

theorem envelope?_recordFields (s : Schema) (d : Schedule) : envelope? (Value.ofFields (recordFields s d)) = none :=
  envelope?_eq_none (show 5 ≠ 2 by decide)

theorem unwrapped_recordFields (d : Schedule) :
    unwrapped (.dict (Value.ofFields (recordFields .v0 d))) = .dict (Value.ofFields (recordFields .v1 d)) := by
  have inside : (Value.ofFields (recordFields .v0 d)).map (fun e => (e.1, unwrapped e.2)) =
      Value.ofFields (recordFields .v1 d) := by
    simp only [Value.ofFields, recordFields, List.map_map, List.zip_map_right, Function.comp_def, Prod.map,
      unwrapped_enveloped, unwrapped_int, id]
    rfl
  rw [unwrapped_dict, inside, contentOr, envelope?_recordFields]

theorem unwrapped_toObject (t : Timing) : unwrapped (t.toObject .v0) = t.toObject .v1 := by
  cases t with
  | untimed =>
    rw [toObject_untimed, toObject_untimed, unwrapped_enveloped, unwrapped_list, List.map_singleton,
      unwrapped_text, enveloped]
  | timed d =>
    rw [toObject_timed, toObject_timed, unwrapped_enveloped, unwrapped_list, List.map_cons,
      List.map_singleton, unwrapped_text, unwrapped_enveloped, unwrapped_recordFields, enveloped, enveloped]

theorem envelopeVersions_enveloped (v : Value) :
    envelopeVersions (enveloped .v0 v) = envelopeVersion :: envelopeVersions v := by
  rw [enveloped, envelopeVersions_dict, envelope?_of_perm (.refl _), List.flatMap_cons, List.flatMap_singleton,
    envelopeVersion, envelopeVersions_int]
  rfl

theorem envelopeVersions_recordFields (d : Schedule) :
    envelopeVersions (.dict (Value.ofFields (recordFields .v0 d))) = List.replicate 5 envelopeVersion := by
  rw [envelopeVersions_dict, envelope?_recordFields, recordFields, Value.scheduleFields,
    Schedule.scalars]
  simp only [List.map_cons, List.map_nil, List.zip_cons_cons, List.zip_nil_right, List.flatMap_cons, List.flatMap_nil,
    envelopeVersions_enveloped, envelopeVersions_int]
  rfl

/-- Timing is in an envelope, and so are its record and the five scalars of that. -/
theorem envelopeVersions_toObject (t : Timing) :
    envelopeVersions (t.toObject .v0) = List.replicate (if t.isTimed then 7 else 1) envelopeVersion := by
  cases t with
  | untimed =>
    rw [toObject_untimed, envelopeVersions_enveloped, envelopeVersions_list,
      List.flatMap_singleton, envelopeVersions_text]
    rfl
  | timed d =>
    rw [toObject_timed, envelopeVersions_enveloped, envelopeVersions_list,
      List.flatMap_cons, List.flatMap_singleton, envelopeVersions_text, envelopeVersions_enveloped,
      envelopeVersions_recordFields]
    rfl

/-- Entries under the names of the fields of a schedule, and no others, each of which is the content of
its own field of that schedule in the form of a schema. -/
def HoldsOwnFields (s : Schema) (d : Schedule) (es : List (Value × Value)) : Prop :=
  es.map (·.1) = Value.scheduleFields.map .text ∧
    ∀ name ∈ Value.scheduleFields, ∃ v, d.ownField? name = some v ∧ Value.get? es name = some (enveloped s v)

theorem recordFields_holdsOwnFields (s : Schema) (d : Schedule) :
    HoldsOwnFields s d (Value.ofFields (recordFields s d)) := by
  have names : (recordFields s d).map (·.1) = Value.scheduleFields := rfl
  have held {name : String} {v : Value} (member : (name, v) ∈ recordFields s d) :
      Value.get? (Value.ofFields (recordFields s d)) name = some v :=
    Value.get?_of_perm (.refl _) (names ▸ nodup_scheduleFields) member
  refine ⟨rfl, forall_scheduleFields.mpr ?_⟩
  exact ⟨⟨_, rfl, held (.head _)⟩, ⟨_, rfl, held (.tail _ (.head _))⟩, ⟨_, rfl, held (.tail _ (.tail _ (.head _)))⟩,
    ⟨_, rfl, held (.tail _ (.tail _ (.tail _ (.head _))))⟩,
    ⟨_, rfl, held (.tail _ (.tail _ (.tail _ (.tail _ (.head _)))))⟩⟩

/-- The schemas say the same. What is written under the first is, without its envelopes, what is written
under the second, each field under its own name; what is read under the first is read without envelopes
under the second, as the same timing; and nothing else is read under the second. -/
theorem schemas_agree_unwrapped (w : Surroundings) :
    (∀ t, ∃ old, toObject w (.timing t) Schema.v0.version = .ok old ∧
      toObject w (.timing t) Schema.v1.version = .ok (unwrapped old) ∧
      envelopeVersions old = List.replicate (if t.isTimed then 7 else 1) (.int 1)) ∧
    (∀ d s, ∃ es, toObject w (.timing (.timed d)) s.version =
        .ok (enveloped s (.list [.text timedName, enveloped s (.dict es)])) ∧ HoldsOwnFields s d es) ∧
    (∀ o t, o.keysDistinct = true → ofObject w o Schema.v0.version = .ok t →
      ofObject w (unwrapped o) Schema.v1.version = .ok t) ∧
    ∀ o t, o.keysDistinct = true → ofObject w o Schema.v1.version = .ok t →
      ∃ old, old.keysDistinct = true ∧ ofObject w old Schema.v0.version = .ok t ∧ unwrapped old = o := by
  simp only [toObject_version, ofObject_version]
  refine ⟨fun t => ⟨t.toObject .v0, rfl, ?_, envelopeVersions_toObject t⟩, fun d s => ?_, fun o t distinct read => ?_,
    fun o t distinct read => ?_⟩
  · rw [unwrapped_toObject]
  · exact ⟨_, congrArg _ (toObject_timed d s), recordFields_holdsOwnFields s d⟩
  · exact ofObject_of_givenBy (givenBy_unwrapped ((ofObject_eq_ok_iff_givenBy distinct).mp read))
  · obtain ⟨old, given, gives⟩ := exists_unwrapped_of_givenBy ((ofObject_eq_ok_iff_givenBy distinct).mp read)
    exact ⟨old, keysDistinct_of_givenBy given, ofObject_of_givenBy given, gives⟩

/-- An envelope with the content before the version. -/
def contentFirst (v : Value) : Value := .dict (Value.ofFields [(contentName, v), (versionName, .int 1)])

/-- An object of the first schema with a tuple for the variant, a map that may not change for the record,
and all entries in reverse. -/
def reversedObject : Value :=
  contentFirst (.tuple [.text timedName, contentFirst (.frozenDict (Value.ofFields
    [("vesting_increment", contentFirst (.int 5)), ("vesting_period", contentFirst (.int 4)),
      ("cliff_amount", contentFirst (.int 3)), ("cliff_time", contentFirst (.int 2)),
      ("initial_minimum_balance", contentFirst (.int 1))]))])

theorem schemas_agree_unwrapped_reversed :
    reversedObject.keysDistinct = true ∧
    ofObject (withoutFiles []) reversedObject Schema.v0.version =
      .ok (.timed ⟨⟨1, by decide⟩, ⟨2, by decide⟩, ⟨3, by decide⟩, ⟨4, by decide⟩, ⟨5, by decide⟩⟩) ∧
    ofObject (withoutFiles []) (unwrapped reversedObject) Schema.v1.version =
      .ok (.timed ⟨⟨1, by decide⟩, ⟨2, by decide⟩, ⟨3, by decide⟩, ⟨4, by decide⟩, ⟨5, by decide⟩⟩) := by
  let d : Schedule := ⟨⟨1, by decide⟩, ⟨2, by decide⟩, ⟨3, by decide⟩, ⟨4, by decide⟩, ⟨5, by decide⟩⟩
  have envelope (v : Value) : IsEnvelope (contentFirst v) 1 v := ⟨_, rfl, .swap _ _ _⟩
  have given : ((Timing.timed d).toObject .v0).GivenBy reversedObject := by
    refine toObject_givenBy_iff.mpr ⟨_, some _, envelope _, rfl, toItem_givenBy_iff.mpr ⟨_, envelope _, _,
      [contentFirst (.int 1), contentFirst (.int 2), contentFirst (.int 3), contentFirst (.int 4),
        contentFirst (.int 5)], rfl, (List.reverse_perm _).symm, ?_⟩⟩
    exact .cons (envelope _) (.cons (envelope _) (.cons (envelope _) (.cons (envelope _) (.cons (envelope _) .nil))))
  have distinct := keysDistinct_of_givenBy given
  have read : ofObject (withoutFiles []) reversedObject Schema.v0.version =
      .ok (.timed d) := by
    rw [ofObject_version, ofObject_of_givenBy given]
  exact ⟨distinct, read, (schemas_agree_unwrapped _).2.2.1 _ _ distinct read⟩

end Wire
end AccountInput
