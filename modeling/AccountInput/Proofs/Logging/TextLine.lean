import AccountInput.Proofs.Logging.JsonLine

namespace AccountInput

namespace Fields

variable {fs : Fields} {name : String}

theorem get?_filter_names (keep : String → Bool) (fs : Fields) (name : String) :
    get? (fs.filter fun f => keep f.1) name = if keep name then fs.get? name else none := by
  induction fs with
  | nil => exact (ite_self none).symm
  | cons f fs ih =>
    obtain ⟨n, w⟩ := f
    rw [List.filter_cons, get?_cons]
    by_cases same : n = name
    · subst same
      cases kept : keep n with
      | true => exact (get?_cons n n w _).trans ((if_pos rfl).trans (if_pos rfl).symm)
      | false =>
        rw [kept] at ih
        exact ih
    · rw [if_neg same, ← ih]
      cases keep n with
      | true => exact (get?_cons n name w _).trans (if_neg same)
      | false => rfl

end Fields

namespace LogRecord

variable {r : LogRecord} {context extra : Fields} {coloured : Bool} {clock line name : String} {v : Value}
  {parts : List String}

/-- The field of a context under one of the names that a text line shows. -/
def boundPart (context : Fields) (name : String) : Option (String × Value) :=
  match context.get? name with
  | none | some .null => none
  | some v => some (name, v)

theorem boundPart_eq_some_iff {f : String × Value} :
    boundPart context name = some f ↔ f.1 = name ∧ context.get? name = some f.2 ∧ f.2 ≠ .null := by
  unfold boundPart
  split
  · rename_i unbound
    refine iff_of_false nofun ?_
    rintro ⟨-, bound, -⟩
    rw [unbound] at bound
    cases bound
  · rename_i null
    refine iff_of_false nofun ?_
    rintro ⟨-, bound, unlike⟩
    exact unlike (Option.some.inj (bound.symm.trans null))
  · rename_i v unlike bound
    constructor
    · rintro ⟨⟩
      exact ⟨rfl, bound, unlike⟩
    · rintro ⟨rfl, bound', -⟩
      rw [Option.some.inj (bound.symm.trans bound')]

theorem get?_contextParts_eq_some_iff :
    (contextParts context).get? name = some v ↔ name ∈ contextNames ∧ context.get? name = some v ∧ v ≠ .null := by
  have parts : contextParts context = contextNames.filterMap (boundPart context) := rfl
  have distinct : ((contextParts context).map (·.1)).Nodup := by
    rw [parts, List.map_filterMap]
    refine List.Nodup.filterMap (fun n n' other found found' => ?_) (by decide : contextNames.Nodup)
    obtain ⟨f, part, rfl⟩ := Option.map_eq_some_iff.mp found
    obtain ⟨f', part', same⟩ := Option.map_eq_some_iff.mp found'
    rw [← (boundPart_eq_some_iff.mp part).1, ← same, (boundPart_eq_some_iff.mp part').1]
  have member : (name, v) ∈ contextParts context ↔ name ∈ contextNames ∧ context.get? name = some v ∧ v ≠ .null := by
    rw [parts, List.mem_filterMap]
    constructor
    · rintro ⟨n, known, part⟩
      obtain ⟨rfl, shown⟩ := boundPart_eq_some_iff.mp part
      exact ⟨known, shown⟩
    · rintro ⟨known, shown⟩
      exact ⟨name, known, boundPart_eq_some_iff.mpr ⟨rfl, shown⟩⟩
  exact ⟨fun found => member.mp (Fields.mem_of_get? found), fun shown => Fields.get?_of_mem distinct (member.mpr shown)⟩

/-- The fields that a text line shows. -/
def textFields (context extra : Fields) : Fields :=
  contextParts context ++ extra.filter fun f => !context.contains f.1

/-- A name whose extra field no text line shows: the context binds it, but the line shows no field of that name, or no
null. -/
def Hides (context : Fields) (name : String) : Prop :=
  ∃ v, context.get? name = some v ∧ (name ∉ contextNames ∨ v = .null)

theorem get?_textFields_iff (given : extra.get? name = some v) :
    (textFields context extra).get? name = some ((context.get? name).getD v) ↔ ¬Hides context name := by
  rw [textFields, Fields.get?_append, Fields.get?_filter_names (fun n => !context.contains n), ← Fields.isSome_get?]
  cases bound : context.get? name with
  | none =>
    -- the filter lets the extra field through, and no part of the context stands before it
    have missing : (contextParts context).get? name = none := by
      refine Option.eq_none_iff_forall_ne_some.mpr fun w found => ?_
      obtain ⟨-, other, -⟩ := get?_contextParts_eq_some_iff.mp found
      rw [bound] at other
      cases other
    rw [missing, given]
    refine iff_of_true rfl ?_
    rintro ⟨w, other, -⟩
    rw [bound] at other
    cases other
  | some w =>
    -- the filter takes the extra field out, so that the context has to show its own value
    have hidden : Hides context name ↔ name ∉ contextNames ∨ w = .null := by
      constructor
      · rintro ⟨w', bound', unshown⟩
        obtain rfl := Option.some.inj (bound.symm.trans bound')
        exact unshown
      · exact fun unshown => ⟨w, bound, unshown⟩
    simp only [Option.isSome_some, Bool.not_true, Bool.false_eq_true, if_false, Option.or_none, Option.getD_some]
    rw [get?_contextParts_eq_some_iff, hidden, not_or, not_not]
    exact and_congr_right fun _ => and_iff_right bound

def lineHead (r : LogRecord) (coloured : Bool) (clock : String) : String :=
  clock ++ " | " ++ levelColumn r.level coloured ++ " | " ++ r.logger

def lineEnd (r : LogRecord) (message : String) : String :=
  " | " ++ message ++
    match r.failure with
    | none => ""
    | some report => "\n" ++ Text.stripEnd report

/-- A text line with its parts in place. -/
def textLayout (r : LogRecord) (coloured : Bool) (clock : String) (parts : List String) (message : String) : String :=
  r.lineHead coloured clock ++ (if parts.isEmpty then "" else " | " ++ " ".intercalate parts) ++ r.lineEnd message

theorem shownParts?_textFields : shownParts? (textFields context extra) = do
    let ofContext ← shownParts? (contextParts context)
    let ofExtra ← shownParts? (extra.filter fun f => !context.contains f.1)
    return ofContext ++ ofExtra :=
  List.mapM_append

theorem textLine?_eq_some_iff : r.textLine? context coloured clock = some line ↔ ∃ extra parts message,
    r.shownExtra = .ok extra ∧ shownParts? (textFields context extra) = some parts ∧ r.text? = some message ∧
      r.textLayout coloured clock parts (CodePoint.written message) = line := by
  have placed (parts : List String) (message : String) : r.textLayout coloured clock parts message =
      clock ++ " | " ++ levelColumn r.level coloured ++ " | " ++ r.logger ++
        (if parts.isEmpty then "" else " | " ++ " ".intercalate parts) ++ " | " ++ message ++
        match r.failure with
        | none => ""
        | some report => "\n" ++ Text.stripEnd report := by
    simp only [textLayout, lineHead, lineEnd, String.append_assoc]
  simp only [shownParts?_textFields, placed, textLine?, Option.bind_eq_bind, Option.bind_eq_some_iff,
    Option.map_eq_some_iff, toOption_eq_some_iff, Option.pure_def, Option.some.injEq]
  constructor
  · rintro ⟨ofContext, first, extra, brought, ofExtra, second, _, ⟨message, said, rfl⟩, line⟩
    exact ⟨extra, _, message, brought, ⟨ofContext, first, ofExtra, second, rfl⟩, said, line⟩
  · rintro ⟨extra, _, message, brought, ⟨ofContext, first, ofExtra, second, rfl⟩, said, line⟩
    exact ⟨ofContext, first, extra, brought, ofExtra, second, _, ⟨message, said, rfl⟩, line⟩

theorem infix_intercalate {part : String} (separator : String) (member : part ∈ parts) :
    part.toList <:+: (separator.intercalate parts).toList := by
  induction parts with
  | nil => cases member
  | cons first rest ih =>
    by_cases last : rest = []
    · subst last
      obtain rfl := List.mem_singleton.mp member
      exact String.intercalate_singleton.symm ▸ List.infix_refl _
    · rw [String.intercalate_cons_of_ne_nil last, String.toList_append, String.toList_append]
      cases member with
      | head => exact ⟨[], _, by rw [List.nil_append, List.append_assoc]⟩
      | tail _ later => exact (ih later).trans ⟨_, [], List.append_nil _⟩

theorem infix_textLayout {part : String} (r : LogRecord) (coloured : Bool) (clock message : String)
    (member : part ∈ parts) : part.toList <:+: (r.textLayout coloured clock parts message).toList := by
  have some_part : parts.isEmpty = false := List.isEmpty_eq_false_iff_exists_mem.mpr ⟨part, member⟩
  refine (infix_intercalate " " member).trans ?_
  rw [textLayout, some_part]
  refine ⟨(r.lineHead coloured clock).toList ++ " | ".toList, (r.lineEnd message).toList, ?_⟩
  simp only [String.toList_append, Bool.false_eq_true, if_false, List.append_assoc]

theorem exists_part_of_mem {fs : Fields} (worded : shownParts? fs = some parts) (member : (name, v) ∈ fs) :
    ∃ t, v.str? = some t ∧ name ++ "=" ++ t ∈ parts := by
  induction fs generalizing parts with
  | nil => cases member
  | cons f fs ih =>
    simp only [shownParts?, List.mapM_cons, Option.bind_eq_bind, Option.bind_eq_some_iff, Option.pure_def,
      Option.some.injEq] at worded
    obtain ⟨part, first, rest, later, rfl⟩ := worded
    cases member with
    | head =>
      obtain ⟨t, text, rfl⟩ := Option.map_eq_some_iff.mp first
      exact ⟨t, text, List.mem_cons_self ..⟩
    | tail _ within =>
      obtain ⟨t, text, among⟩ := ih later within
      exact ⟨t, text, List.mem_cons_of_mem _ among⟩

theorem isSome_shownParts (fs : Fields) : (shownParts? fs).isSome = true ↔ ∀ f ∈ fs, f.2.isWorded = true := by
  rw [shownParts?, isSome_mapM, List.all_eq_true]
  simp only [Option.isSome_map, Value.isSome_str]

theorem exists_textLine_iff : (∃ line, r.textLine? context coloured clock = some line) ↔
    (∃ message, r.text? = some message) ∧ ∃ extra, r.shownExtra = .ok extra ∧
      ∀ f ∈ textFields context extra, f.2.isWorded = true := by
  simp only [textLine?_eq_some_iff, ← isSome_shownParts, Option.isSome_iff_exists]
  constructor
  · rintro ⟨line, extra, parts, message, brought, worded, said, -⟩
    exact ⟨⟨message, said⟩, extra, brought, parts, worded⟩
  · rintro ⟨⟨message, said⟩, extra, brought, parts, worded⟩
    exact ⟨_, extra, parts, message, brought, worded, said, rfl⟩

theorem reads_of_textLine (written : r.textLine? context coloured clock = some line) (brought : r.shownExtra = .ok extra)
    (found : (textFields context extra).get? name = some v) :
    ∃ t, v.str? = some t ∧ (name ++ "=" ++ t).toList <:+: line.toList := by
  obtain ⟨extra', parts, message, brought', worded, said, rfl⟩ := textLine?_eq_some_iff.mp written
  obtain rfl := Except.ok.inj (brought.symm.trans brought')
  obtain ⟨t, text, part⟩ := exists_part_of_mem worded (Fields.mem_of_get? found)
  exact ⟨t, text, infix_textLayout r coloured clock (CodePoint.written message) part⟩

/-- The text line of a record, made of certain fields, where no extra field is dropped. -/
structure KeepsExtra (r : LogRecord) (context : Fields) (coloured : Bool) (clock : String) (extra : Fields)
    (line : String) : Prop where
  brought : r.shownExtra = .ok extra
  written : r.textLine? context coloured clock = some line
  laidOut : ∃ parts message, shownParts? (textFields context extra) = some parts ∧ r.text? = some message ∧
    r.textLayout coloured clock parts (CodePoint.written message) = line
  /-- an extra field is one of those, with the value of the context if that binds its name -/
  shows : ∀ name v, extra.get? name = some v →
    (textFields context extra).get? name = some ((context.get? name).getD v)
  /-- each of those stands in the line with its name and its text -/
  reads : ∀ name v, (textFields context extra).get? name = some v →
    ∃ t, v.str? = some t ∧ (name ++ "=" ++ t).toList <:+: line.toList

theorem keepsExtra_iff (brought : r.shownExtra = .ok extra) : r.KeepsExtra context coloured clock extra line ↔
    r.textLine? context coloured clock = some line ∧ ∀ f ∈ extra, ¬Hides context f.1 := by
  constructor
  · intro keeps
    refine ⟨keeps.written, fun f member => ?_⟩
    obtain ⟨v, given⟩ := Fields.exists_get?_of_mem (List.mem_map_of_mem member)
    exact (get?_textFields_iff given).mp (keeps.shows _ v given)
  · rintro ⟨written, spared⟩
    obtain ⟨extra', parts, message, brought', laidOut⟩ := textLine?_eq_some_iff.mp written
    obtain rfl := Except.ok.inj (brought.symm.trans brought')
    refine ⟨brought, written, ⟨parts, message, laidOut⟩, fun name v given => ?_, fun name v found => ?_⟩
    · exact (get?_textFields_iff given).mpr (spared _ (Fields.mem_of_get? given))
    · exact reads_of_textLine written brought found

/-- A record has a text line that drops no extra field if and only if its message has a text, each extra field becomes
something, what the line shows has no integer of too many digits, and no extra field has a name that hides it. A JSON
line drops none in any case: each stands in it with the value of the context if that binds its name, unless the record
has the name of its own. -/
theorem exists_keepsExtra_iff (distinct : (context.map (·.1)).Nodup) (r : LogRecord) (coloured : Bool) (clock : String) :
    ((∃ extra line, r.KeepsExtra context coloured clock extra line) ↔
      (∃ message, r.text? = some message) ∧ (∀ f ∈ r.extra, isShown f.1 = true → f.2.IsCoercible) ∧
        ∀ extra, r.shownExtra = .ok extra → (∀ f ∈ textFields context extra, f.2.isWorded = true) ∧
          ∀ f ∈ extra, ¬Hides context f.1) ∧
    ∀ message extra name v, r.shownExtra = .ok extra → extra.get? name = some v →
      (r.ownFields clock message).get? name = none → (name = "err" → r.failure = none) →
        (r.jsonFields context extra clock message).get? name = some ((context.get? name).getD v) := by
  constructor
  · rw [← exists_shownExtra_iff]
    constructor
    · rintro ⟨extra, line, keeps⟩
      obtain ⟨said, extra', brought', short⟩ := exists_textLine_iff.mp ⟨line, keeps.written⟩
      refine ⟨said, ⟨extra, keeps.brought⟩, fun other same => ?_⟩
      obtain rfl := Except.ok.inj (keeps.brought.symm.trans same)
      obtain rfl := Except.ok.inj (keeps.brought.symm.trans brought')
      exact ⟨short, ((keepsExtra_iff keeps.brought).mp keeps).2⟩
    · rintro ⟨said, ⟨extra, brought⟩, conditions⟩
      obtain ⟨short, spared⟩ := conditions extra brought
      obtain ⟨line, written⟩ := exists_textLine_iff.mpr ⟨said, extra, brought, short⟩
      exact ⟨extra, line, (keepsExtra_iff brought).mpr ⟨written, spared⟩⟩
  · intro message extra name v brought given free spared
    rw [get?_jsonFields distinct spared, free, given, Option.none_or]
    cases context.get? name <;> rfl

def accountContext : Fields := [("op", .null), ("account", .text "B62")]

/-- A record with an extra field whose name the context binds, and with one that holds what JSON has no key for. -/
def sharedRecord : LogRecord where
  logger := "ledger"
  level := 20
  message := .text "m"
  args := []
  extra := [("account", .null), ("sizes", .dict [(.tuple [.null], .bytes .view [])])]
  failure := none

theorem exists_keepsExtra_shared :
    (∃ extra line, sharedRecord.KeepsExtra accountContext true "now" extra line) ∧
    (sharedRecord.jsonFields accountContext sharedRecord.extra "now" "m").get? "account" = some (.text "B62") := by
  have brought : sharedRecord.shownExtra = .ok sharedRecord.extra :=
    shownExtra_eq_extra <| List.forall_mem_cons.mpr ⟨⟨isShown_iff.mpr (by decide), rfl, rfl⟩,
      List.forall_mem_singleton.mpr ⟨isShown_iff.mpr (by decide), rfl, rfl⟩⟩
  have distinct : (accountContext.map (·.1)).Nodup := by decide
  obtain ⟨text, json⟩ := exists_keepsExtra_iff distinct sharedRecord true "now"
  refine ⟨text.mpr ⟨⟨_, rfl⟩, exists_shownExtra_iff.mp ⟨_, brought⟩, fun extra same => ?_⟩,
    json "m" _ "account" .null brought rfl rfl nofun⟩
  obtain rfl := Except.ok.inj (brought.symm.trans same)
  constructor
  · exact List.forall_mem_cons.mpr ⟨rfl, List.forall_mem_singleton.mpr rfl⟩
  · refine List.forall_mem_cons.mpr ⟨?_, List.forall_mem_singleton.mpr ?_⟩
    · rintro ⟨_, ⟨⟩, unknown | null⟩
      · exact unknown (by decide)
      · cases null
    · rintro ⟨_, unbound, -⟩
      cases unbound

/-- A field that the context binds too is on no text line if the line shows no field of its name from the context, and
if the context binds its name to null. A JSON line has it in each case. -/
theorem textLine?_carrying_bound :
    (carrying "field" (.text "own")).textLine? [("field", .text "bound")] false "now" =
        some "now | INFO  | ledger | m" ∧
      (carrying "field" (.text "own")).jsonLine? [("field", .text "bound")] "now" =
        some "\x7b\"ts\":\"now\",\"level\":\"INFO\",\"logger\":\"ledger\",\"msg\":\"m\",\"field\":\"bound\"\x7d" ∧
      (carrying "account" (.text "own")).textLine? [("account", .null)] false "now" =
        some "now | INFO  | ledger | m" ∧
      (carrying "account" (.text "own")).jsonLine? [("account", .null)] "now" =
        some "\x7b\"ts\":\"now\",\"level\":\"INFO\",\"logger\":\"ledger\",\"msg\":\"m\",\"account\":null\x7d" := by
  have field : (carrying "field" (.text "own")).shownExtra = .ok [("field", .text "own")] :=
    shownExtra_eq_extra (List.forall_mem_singleton.mpr ⟨isShown_iff.mpr (by decide), rfl, rfl⟩)
  have account : (carrying "account" (.text "own")).shownExtra = .ok [("account", .text "own")] :=
    shownExtra_eq_extra (List.forall_mem_singleton.mpr ⟨isShown_iff.mpr (by decide), rfl, rfl⟩)
  rw [textLine?, jsonLine?, textLine?, jsonLine?, field, account]
  exact ⟨rfl, rfl, rfl, rfl⟩

end LogRecord
end AccountInput
