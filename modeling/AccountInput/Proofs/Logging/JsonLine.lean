import AccountInput.Proofs.Json.Writer
import AccountInput.Proofs.Logging.Coercion
import AccountInput.Proofs.Logging.Line

namespace AccountInput

namespace Value

theorem hasForm_text (s : String) : (text s).hasJsonKeys = true ∧ (text s).isJsonWorded = true := by
  simp only [hasJsonKeys, isJsonWorded, jsonWordings, ownWordings, wordings, List.all_nil, and_self]

end Value

namespace LogRecord

variable {r : LogRecord} {context extra : Fields} {clock message name : String}

theorem exists_shownExtra_iff :
    (∃ extra, r.shownExtra = .ok extra) ↔ ∀ f ∈ r.extra, isShown f.1 = true → f.2.IsCoercible := by
  rw [shownExtra, Fields.logged, exists_mapM_iff]
  simp only [List.mem_filter, and_imp, bind_eq_ok_iff]
  refine forall₂_congr fun f _ => imp_congr_right fun _ => ?_
  rw [← Value.exists_logged_iff]
  constructor
  · rintro ⟨_, w, run, _⟩
    exact ⟨w, run⟩
  · rintro ⟨w, run⟩
    exact ⟨_, w, run, rfl⟩

/-- A field has a part in a line if and only if its value has a form in JSON. The message always has one. -/
theorem isSome_jsonPart {f : String × Value} (points : List CodePoint)
    (said : f.1 = "msg" → context.contains "msg" = false → f.2 = .text message) :
    (jsonPart? context points f).isSome = (f.2.hasJsonKeys && f.2.isJsonWorded) := by
  rw [jsonPart?, Option.isSome_map, ← Json.isSome_write]
  split
  · rename_i own
    rw [said own.1 (Bool.not_eq_true' _ ▸ own.2)]
    rfl
  · rfl

theorem exists_jsonLine_iff_forms (distinct : (context.map (·.1)).Nodup) :
    (∃ line, r.jsonLine? context clock = some line) ↔ ∃ message extra, r.text? = some message ∧
      r.shownExtra = .ok extra ∧ ∀ f ∈ r.jsonFields context extra clock (CodePoint.written message),
        f.2.hasJsonKeys = true ∧ f.2.isJsonWorded = true := by
  have parts (message : List CodePoint) (extra : Fields) :
      (∃ parts, (r.jsonFields context extra clock (CodePoint.written message)).mapM (jsonPart? context message) =
        some parts) ↔ ∀ f ∈ r.jsonFields context extra clock (CodePoint.written message),
          f.2.hasJsonKeys = true ∧ f.2.isJsonWorded = true := by
    rw [← Option.isSome_iff_exists, isSome_mapM, List.all_eq_true]
    refine forall₂_congr fun f member => ?_
    rw [isSome_jsonPart message (eq_of_mem_jsonFields distinct member), Bool.and_eq_true]
  simp only [← parts, jsonLine?, Option.bind_eq_bind, Option.bind_eq_some_iff, toOption_eq_some_iff, Option.pure_def,
    Option.some.injEq]
  constructor
  · rintro ⟨line, message, said, extra, brought, ts, written, -⟩
    exact ⟨message, extra, said, brought, ts, written⟩
  · rintro ⟨message, extra, said, brought, ts, written⟩
    exact ⟨_, message, said, extra, brought, ts, written, rfl⟩

theorem shownExtra_eq_extra
    (kept : ∀ f ∈ r.extra, isShown f.1 = true ∧ f.2.isRecord = false ∧ f.2.isReportable = true) :
    r.shownExtra = .ok r.extra := by
  rw [shownExtra, List.filter_eq_self.mpr fun f member => (kept f member).1]
  refine mapM_eq_ok_iff.mpr (List.forall₂_same.mpr fun f member => ?_)
  obtain ⟨-, single, reportable⟩ := kept f member
  exact bind_eq_ok_iff.mpr ⟨f.2, Value.logged_of_isReportable single reportable, rfl⟩

theorem forall_mem_jsonFields_iff (distinct : (context.map (·.1)).Nodup) :
    (∀ f ∈ r.jsonFields context extra clock message, f.2.hasJsonKeys = true ∧ f.2.isJsonWorded = true) ↔ ∀ name v,
      (context.get? name).or (((r.ownFields clock message).get? name).or (extra.get? name)) = some v →
        (name = "err" → r.failure = none) → v.hasJsonKeys = true ∧ v.isJsonWorded = true := by
  refine (Fields.forall_mem_iff_get? (P := fun v => v.hasJsonKeys = true ∧ v.isJsonWorded = true)
    (nodup_names_jsonFields r context extra clock message)).trans ?_
  refine forall₂_congr fun name v => ?_
  by_cases spared : name = "err" → r.failure = none
  · rw [get?_jsonFields distinct spared]
    exact imp_congr_right fun _ => (imp_iff_right spared).symm
  · -- the report of a failure is a text, whatever it stands in place of
    obtain ⟨rfl, failed⟩ := Classical.not_imp.mp spared
    obtain ⟨report, failed⟩ := Option.ne_none_iff_exists'.mp failed
    refine iff_of_true (fun given => ?_) fun _ spared' => absurd spared' spared
    rw [get?_jsonFields_err failed] at given
    obtain rfl := Option.some.inj given
    exact Value.hasForm_text _

/-- A record has a JSON line if and only if its message has a text, each extra field that a line shows becomes something,
and what the line then gives under each name has keys that JSON knows, wherever JSON has objects, and no integer of too
many digits at any depth. What another field of the same name hides, or the report of a failure, does not matter. -/
theorem exists_jsonLine_iff (distinct : (context.map (·.1)).Nodup) (r : LogRecord) (clock : String) :
    (∃ line, r.jsonLine? context clock = some line) ↔
      (∀ f ∈ r.extra, isShown f.1 = true → f.2.IsCoercible) ∧
      ∃ message, r.text? = some message ∧ ∀ extra, r.shownExtra = .ok extra → ∀ name v,
        (context.get? name).or (((r.ownFields clock (CodePoint.written message)).get? name).or (extra.get? name)) = some v →
          (name = "err" → r.failure = none) → v.hasJsonKeys = true ∧ v.isJsonWorded = true := by
  simp only [exists_jsonLine_iff_forms distinct, forall_mem_jsonFields_iff distinct, ← exists_shownExtra_iff]
  constructor
  · rintro ⟨message, extra, said, brought, forms⟩
    refine ⟨⟨extra, brought⟩, message, said, fun other same => ?_⟩
    obtain rfl := Except.ok.inj (brought.symm.trans same)
    exact forms
  · rintro ⟨⟨extra, brought⟩, message, said, forms⟩
    exact ⟨message, extra, said, brought, forms extra brought⟩

/-- A record whose extra fields hold dictionaries with keys that JSON does not know: under a name that the record has of
its own, under one that a context may bind, and within a value that becomes text. -/
def oddKeysRecord : LogRecord where
  logger := "ledger"
  level := 20
  message := .text "m"
  args := []
  extra := [("level", .dict [(.bytes .fixed [0], .null)]), ("account", .list [.dict [(.tuple [], .null)]]),
    ("sizes", .dict [(.null, .bytes .view [255]), (.bool true, .frozenDict [(.tuple [], .int (-1))])])]
  failure := none

theorem exists_jsonLine_oddKeys : ∃ line, oddKeysRecord.jsonLine? [("account", .text "B62")] "now" = some line := by
  have brought : oddKeysRecord.shownExtra = .ok oddKeysRecord.extra :=
    shownExtra_eq_extra <| List.forall_mem_cons.mpr ⟨⟨isShown_iff.mpr (by decide), rfl, rfl⟩,
      List.forall_mem_cons.mpr ⟨⟨isShown_iff.mpr (by decide), rfl, rfl⟩,
        List.forall_mem_singleton.mpr ⟨isShown_iff.mpr (by decide), rfl, rfl⟩⟩⟩
  have few : 1 ≤ Decimal.digitLimit := by decide
  have short : (Decimal.text? (-1)).isSome = true := by rw [Decimal.text?_of_lt few (by decide), Option.isSome_some]
  refine (exists_jsonLine_iff (by decide) oddKeysRecord "now").mpr ⟨?_, _, rfl, ?_⟩
  · exact exists_shownExtra_iff.mp ⟨_, brought⟩
  · intro extra same name v given _
    obtain rfl := Except.ok.inj (brought.symm.trans same)
    rw [← Fields.get?_append, ← Fields.get?_append] at given
    simp only [oddKeysRecord, ownFields, List.cons_append, List.nil_append, Fields.get?_cons] at given
    -- the first field of a name is the one that the line gives
    split_ifs at given <;> cases given
    · exact Value.hasForm_text _
    · exact Value.hasForm_text _
    · exact Value.hasForm_text _
    · exact Value.hasForm_text _
    · exact Value.hasForm_text _
    · refine ⟨rfl, ?_⟩
      simp only [Value.isJsonWorded, Value.jsonWordings, Value.eachJsonWordings, Value.ownWordings, Value.wordings,
        Value.eachWordings, Value.allWordings, List.append_nil, List.nil_append, Value.all_singleton, short]

def carrying (name : String) (v : Value) : LogRecord where
  logger := "ledger"
  level := 20
  message := .text "m"
  args := []
  extra := [(name, v)]
  failure := none

/-- What a list or a dictionary holds stays as it is, so that its record has a line only if that has a form in JSON. -/
theorem jsonLine?_carrying_of_kept {v : Value} (single : v.isRecord = false) (kept : v.isReportable = true)
    (formless : ¬(v.hasJsonKeys = true ∧ v.isJsonWorded = true)) (clock : String) :
    (carrying "x" v).jsonLine? [] clock = none := by
  refine Option.eq_none_iff_forall_ne_some.mpr fun line written => ?_
  obtain ⟨message, extra, -, brought, forms⟩ := (exists_jsonLine_iff_forms Fields.nodup_names_nil).mp ⟨line, written⟩
  have shown : isShown "x" = true := isShown_iff.mpr (by decide)
  have same : (carrying "x" v).shownExtra = .ok [("x", v)] :=
    shownExtra_eq_extra (List.forall_mem_singleton.mpr ⟨shown, single, kept⟩)
  obtain rfl := Except.ok.inj (brought.symm.trans same)
  exact formless ((forall_mem_jsonFields_iff Fields.nodup_names_nil).mp forms "x" v rfl nofun)

/-- A key that JSON does not know and an integer of too many digits, each deep within what an extra field holds, lose
the record, and so does an extra field that has no text. -/
theorem jsonLine?_carrying_unwritable :
    (carrying "x" (.list [.dict [(.bytes .fixed [0], .int 1)]])).jsonLine? [] "now" = none ∧
      (carrying "x" (.dict [(.text "n", .list [.int Decimal.tooLong])])).jsonLine? [] "now" = none ∧
      (carrying "x" (.tuple [.int Decimal.tooLong])).jsonLine? [] "now" = none := by
  refine ⟨jsonLine?_carrying_of_kept rfl rfl (fun form => ?_) "now", jsonLine?_carrying_of_kept rfl rfl (fun form => ?_) "now",
    Option.eq_none_iff_forall_ne_some.mpr fun line written => ?_⟩
  · cases form.1
  · have worded := form.2
    simp only [Value.isJsonWorded, Value.jsonWordings, Value.allJsonWordings, Value.eachJsonWordings, Value.ownWordings,
      Value.wordings, List.append_nil, List.nil_append, Value.all_singleton, Decimal.text?_tooLong, Option.isSome_none,
      Bool.false_eq_true] at worded
  · obtain ⟨-, extra, -, brought, -⟩ := (exists_jsonLine_iff_forms Fields.nodup_names_nil).mp ⟨line, written⟩
    have coercible := exists_shownExtra_iff.mp ⟨extra, brought⟩ ("x", .tuple [.int Decimal.tooLong]) List.mem_cons_self
    cases coercible (isShown_iff.mpr (by decide)) with
    | kept _ kept => cases kept
    | worded _ worded =>
      simp only [Value.isWorded, Value.ownWordings, Value.wordings, Value.allWordings, List.append_nil,
        Value.all_singleton, Decimal.text?_tooLong, Option.isSome_none, Bool.false_eq_true] at worded
    | record record => cases record

end LogRecord
end AccountInput
