import AccountInput.Logging.Line
import AccountInput.Proofs.Json.Printed
import AccountInput.Proofs.Logging.Scoping

namespace AccountInput

namespace Value

/-- A value that a line gives back as it is, nested less than 400 deep. -/
structure IsPlain (v : Value) : Prop where
  faithful : Json.Faithful v
  shallow : v.depth < 400

/-- A value that a line shows: a plain one, or bytes. -/
inductive IsLoggable : Value → Prop
  | plain {v : Value} (plain : v.IsPlain) : IsLoggable v
  | fixed (bs : List UInt8) : IsLoggable (.bytes .fixed bs)
  | growable (bs : List UInt8) : IsLoggable (.bytes .growable bs)

/-- A value as a line shows it: bytes in lower-case hexadecimal digits, everything else as it is. -/
def shown : Value → Value
  | .bytes _ bs => .text (Hex.text bs)
  | v => v

theorem isPlain_text (s : String) : (text s).IsPlain := by
  have flat : (text s).depth = 0 := rfl
  exact ⟨.text s, flat ▸ by decide⟩

variable {v : Value}

theorem IsPlain.shown_eq (plain : v.IsPlain) : v.shown = v := by
  cases plain.faithful <;> rfl

theorem IsPlain.logged (plain : v.IsPlain) : v.logged = .ok v := by
  have single : v.isRecord = false := by cases plain.faithful <;> rfl
  have reportable : v.isReportable = true := by cases plain.faithful <;> rfl
  exact logged_of_isReportable single reportable

theorem IsLoggable.logged (loggable : v.IsLoggable) : v.logged = .ok v.shown := by
  cases loggable with
  | plain plain => rw [plain.logged, plain.shown_eq]
  | fixed bs => rfl
  | growable bs => rfl

theorem IsLoggable.isPlain_shown (loggable : v.IsLoggable) : v.shown.IsPlain := by
  cases loggable with
  | plain plain => exact plain.shown_eq.symm ▸ plain
  | fixed bs => exact isPlain_text _
  | growable bs => exact isPlain_text _

end Value

namespace Fields

variable {fs gs : Fields}

/-- Fields as a line shows them. -/
def shown (fs : Fields) : Fields := fs.map fun f => (f.1, f.2.shown)

theorem get?_shown (fs : Fields) (name : String) : fs.shown.get? name = (fs.get? name).map Value.shown := by
  induction fs with
  | nil => rfl
  | cons f fs ih =>
    obtain ⟨n, w⟩ := f
    rw [get?_cons, shown, List.map_cons, get?_cons, ← shown, ih]
    split <;> rfl

theorem names_shown (fs : Fields) : fs.shown.map (·.1) = fs.map (·.1) := by
  rw [shown, List.map_map]
  rfl

theorem logged_eq_shown (loggable : ∀ f ∈ fs, f.2.IsLoggable) : fs.logged = .ok fs.shown := by
  refine mapM_eq_ok_iff.mpr ?_
  rw [shown, List.forall₂_map_right_iff, List.forall₂_same]
  intro f member
  dsimp only
  rw [(loggable f member).logged]
  rfl

/-- Plain values under names that stand once each. -/
structure ArePlain (fs : Fields) : Prop where
  distinct : (fs.map (·.1)).Nodup
  plain : ∀ f ∈ fs, f.2.IsPlain

theorem ArePlain.set (held : fs.ArePlain) (name : String) {v : Value} (plain : v.IsPlain) :
    (fs.set name v).ArePlain := by
  refine ⟨nodup_names_set held.distinct name v, ?_⟩
  obtain ⟨-, all⟩ := held
  induction fs with
  | nil => exact List.forall_mem_singleton.mpr plain
  | cons f fs ih =>
    obtain ⟨first, others⟩ := List.forall_mem_cons.mp all
    rw [Fields.set_cons]
    split
    · exact List.forall_mem_cons.mpr ⟨plain, others⟩
    · exact List.forall_mem_cons.mpr ⟨first, ih others⟩

theorem ArePlain.setDefault (held : fs.ArePlain) (name : String) {v : Value} (plain : v.IsPlain) :
    (fs.setDefault name v).ArePlain := by
  by_cases bound : fs.contains name = true
  · rw [Fields.setDefault, if_pos bound]
    exact held
  · rw [setDefault_eq_set bound]
    exact held.set name plain

/-- What keeps fields plain one binding after the other does so for all of them. -/
theorem ArePlain.foldl {step : Fields → String × Value → Fields}
    (keeps : ∀ fs g, ArePlain fs → g.2.IsPlain → (step fs g).ArePlain) (held : fs.ArePlain)
    (plain : ∀ g ∈ gs, g.2.IsPlain) : (gs.foldl step fs).ArePlain :=
  List.foldlRecOn gs step held fun fs held g member => keeps fs g held (plain g member)

theorem ArePlain.merge (held : fs.ArePlain) (plain : ∀ g ∈ gs, g.2.IsPlain) : (fs.merge gs).ArePlain :=
  held.foldl (fun _ g held plain => held.set g.1 plain) plain

theorem ArePlain.mergeDefaults (held : fs.ArePlain) (plain : ∀ g ∈ gs, g.2.IsPlain) :
    (fs.mergeDefaults gs).ArePlain :=
  held.foldl (fun _ g held plain => held.setDefault g.1 plain) plain

theorem isPlain_of_mem_shown (loggable : ∀ f ∈ fs, f.2.IsLoggable) : ∀ g ∈ fs.shown, g.2.IsPlain := by
  intro g member
  obtain ⟨f, within, rfl⟩ := List.mem_map.mp member
  exact (loggable f within).isPlain_shown

/-- Such fields are written as one object, which is read back. -/
theorem ArePlain.exists_read (held : fs.ArePlain) :
    ∃ line, Json.write? (.dict fs.entries) = some line ∧ Json.ArePrintable line.toList ∧
      Json.read line.toList = .ok (.dict (Value.ofFields fs)) := by
  have faithful : Json.Faithful (.dict (Value.ofFields fs)) := .dict held.distinct fun f member =>
    (held.plain f member).faithful
  refine faithful.exists_read ?_
  have shallow : Value.depthOfEntries (Value.ofFields fs) < 400 := by
    refine Value.depthOfEntries_lt (by decide) fun e member => ?_
    obtain ⟨f, within, rfl⟩ := List.mem_map.mp member
    exact (held.plain f within).shallow
  rw [Value.depth]
  exact shallow.trans_le (by decide)

end Fields

namespace LogContext

variable {c : LogContext} {fs : Fields}

theorem bind_eq (loggable : ∀ f ∈ fs, f.2.IsLoggable) :
    c.bind fs = .ok { c with fields := c.fields.merge fs.shown } := by
  rw [bind, Fields.logged_eq_shown loggable]
  rfl

end LogContext

namespace LogRecord

variable {r : LogRecord} {context extra : Fields} {clock message : String}

theorem arePlain_ownFields (r : LogRecord) (clock message : String) : (r.ownFields clock message).ArePlain := by
  refine ⟨nodup_names_ownFields r clock message, ?_⟩
  · simp only [ownFields, List.forall_mem_cons, Value.isPlain_text, true_and]
    exact nofun

/-- A name is shown unless it begins with an underscore or is one of those that are hidden. -/
theorem isShown_iff {name : String} : isShown name = true ↔ ¬['_'] <+: name.toList ∧ name ∉ hiddenNames := by
  have mark : "_".toList = ['_'] := rfl
  rw [isShown, Bool.and_eq_true, Bool.not_eq_true', Bool.not_eq_true', ← Bool.not_eq_true, ← Bool.not_eq_true,
    String.startsWith_string_iff, mark, List.contains_iff_mem]

theorem shownExtra_eq (extra : ∀ f ∈ r.extra, isShown f.1 = true ∧ f.2.IsLoggable) :
    r.shownExtra = .ok r.extra.shown := by
  rw [shownExtra, List.filter_eq_self.mpr fun f member => (extra f member).1]
  exact Fields.logged_eq_shown fun f member => (extra f member).2

/-- A line whose message is well-formed has the parts that its fields have in JSON. -/
theorem mapM_jsonPart {fs : Fields}
    (said : ∀ f ∈ fs, f.1 = "msg" → context.contains "msg" = false → f.2 = .text message) :
    fs.mapM (jsonPart? context (CodePoint.ofText message)) = Json.writeEntries? fs.entries := by
  induction fs with
  | nil => rfl
  | cons f fs ih =>
    obtain ⟨first, others⟩ := List.forall_mem_cons.mp said
    have part : jsonPart? context (CodePoint.ofText message) f =
        (Json.write? f.2).map fun t => Json.quote f.1 ++ ":" ++ t := by
      rw [jsonPart?]
      split
      · rename_i own
        rw [first own.1 (Bool.not_eq_true' _ ▸ own.2), Json.quotePoints_ofText]
        rfl
      · rfl
    rw [List.mapM_cons, part, ih others, Option.map_eq_bind, Option.bind_eq_bind, Option.bind_assoc]
    rfl

theorem eq_of_mem_jsonFields {f : String × Value} (distinct : (context.map (·.1)).Nodup)
    (member : f ∈ r.jsonFields context extra clock message) (own : f.1 = "msg") (free : context.contains "msg" = false) :
    f.2 = .text message := by
  have given := Fields.get?_of_mem (nodup_names_jsonFields r context extra clock message) member
  have unbound : context.get? "msg" = none := by
    rw [← Option.isNone_iff_eq_none, ← Option.not_isSome, Fields.isSome_get?, free, Bool.not_false]
  have other : "msg" = "err" → r.failure = none := fun same => absurd same (by decide)
  rw [own, get?_jsonFields distinct other, unbound] at given
  exact (Option.some.inj given).symm

theorem jsonLine?_eq (plain : r.failure = none) (said : r.text? = some (CodePoint.ofText message))
    (extra : ∀ f ∈ r.extra, isShown f.1 = true ∧ f.2.IsLoggable) (distinct : (context.map (·.1)).Nodup)
    (clock : String) : r.jsonLine? context clock =
      Json.write? (.dict (((r.ownFields clock message).merge context).mergeDefaults r.extra.shown).entries) := by
  have fields :
      r.jsonFields context r.extra.shown clock message =
        ((r.ownFields clock message).merge context).mergeDefaults r.extra.shown := by
    rw [jsonFields, plain]
    rfl
  have own : ∀ f ∈ r.jsonFields context r.extra.shown clock message,
      f.1 = "msg" → context.contains "msg" = false → f.2 = .text message := fun _ => eq_of_mem_jsonFields distinct
  have parts := mapM_jsonPart own
  rw [fields] at parts
  rw [jsonLine?, said, shownExtra_eq extra]
  simp only [Except.toOption, CodePoint.written_ofText, fields, Option.bind_eq_bind, Option.bind_some, parts]
  rw [Json.write?]
  exact Option.map_eq_bind.symm

/-- Whatever is bound in a context, and whatever a record without a failure says and brings along, its JSON line is
printable ASCII and is read as an object with one value under each name: what the context binds, bytes as their digits,
else what the record has of its own, else the extra field. -/
theorem exists_read_jsonLine {c : LogContext} {bound : Fields} (held : c.fields.ArePlain)
    (binds : ∀ f ∈ bound, f.2.IsLoggable) (distinct : (bound.map (·.1)).Nodup) (plain : r.failure = none)
    (said : r.text? = some (CodePoint.ofText message)) (extra : ∀ f ∈ r.extra, isShown f.1 = true ∧ f.2.IsLoggable)
    (clock : String) :
    ∃ (c' : LogContext) (line : String) (fs : Fields), c.bind bound = .ok c' ∧
      r.jsonLine? c'.fields clock = some line ∧ Json.ArePrintable line.toList ∧
      Json.read line.toList = .ok (.dict (Value.ofFields fs)) ∧ (fs.map (·.1)).Nodup ∧
      ∀ name, fs.get? name = (((bound.get? name).map Value.shown).or (c.fields.get? name)).or
        (((r.ownFields clock message).get? name).or ((r.extra.get? name).map Value.shown)) := by
  have context : (c.fields.merge bound.shown).ArePlain := held.merge (Fields.isPlain_of_mem_shown binds)
  have all : (((r.ownFields clock message).merge (c.fields.merge bound.shown)).mergeDefaults r.extra.shown).ArePlain :=
    ((arePlain_ownFields r clock message).merge context.plain).mergeDefaults
      (Fields.isPlain_of_mem_shown fun f member => (extra f member).2)
  obtain ⟨line, written, printable, back⟩ := all.exists_read
  refine ⟨_, line, _, LogContext.bind_eq binds, (jsonLine?_eq plain said extra context.distinct clock).trans written, printable, back,
    all.distinct, fun name => ?_⟩
  rw [Fields.get?_mergeDefaults, Fields.get?_merge context.distinct,
    Fields.get?_merge (bound.names_shown.symm ▸ distinct), Fields.get?_shown, Fields.get?_shown, Option.or_assoc]

/-- A warning with line breaks, a control character and a character beyond the basic plane in its message, and with
extra fields of which one has a name of the record's own and another one a name that the context binds. -/
def unrulyRecord : LogRecord where
  logger := "ledger.wire"
  level := 30
  message := .text "first\r\nsecond \"\x1b[31m\" 😀"
  args := []
  extra := [("level", .int (-5)), ("component", .null),
    ("sizes", .list [.float (.zero true), .dict (Value.ofFields [("é", .null)])])]
  failure := none

theorem exists_read_unrulyRecord :
    ∃ (c : LogContext) (line : String) (fs : Fields),
      LogContext.bind ⟨[("component", .text "codec")], []⟩ [("proof", .bytes .growable [10, 255]), ("ts", .bool true)] =
        .ok c ∧ unrulyRecord.jsonLine? c.fields "now" = some line ∧ Json.ArePrintable line.toList ∧
      Json.read line.toList = .ok (.dict (Value.ofFields fs)) ∧ fs.get? "component" = some (.text "codec") ∧
      fs.get? "proof" = some (.text "0aff") ∧ fs.get? "ts" = some (.bool true) ∧
      fs.get? "level" = some (.text "WARNING") ∧
      fs.get? "msg" = some (.text "first\r\nsecond \"\x1b[31m\" 😀") := by
  have codec : Fields.ArePlain [("component", .text "codec")] :=
    ⟨List.nodup_singleton _, List.forall_mem_singleton.mpr (Value.isPlain_text _)⟩
  have flag : (Value.bool true).IsPlain := ⟨.bool true, by decide⟩
  have binds : ∀ f ∈ [("proof", Value.bytes .growable [10, 255]), ("ts", .bool true)], f.2.IsLoggable :=
    List.forall_mem_cons.mpr ⟨.growable _, List.forall_mem_singleton.mpr (.plain flag)⟩
  have sizes : Json.Faithful (.list [.float (.zero true), .dict (Value.ofFields [("é", .null)])]) := by
    refine .list (List.forall_mem_cons.mpr ⟨.float rfl, List.forall_mem_singleton.mpr (.dict ?_ ?_)⟩)
    · exact List.nodup_singleton _
    · exact List.forall_mem_singleton.mpr .null
  have few : 1 ≤ Decimal.digitLimit := by decide
  have extra : ∀ f ∈ unrulyRecord.extra, isShown f.1 = true ∧ f.2.IsLoggable := by
    refine List.forall_mem_cons.mpr ⟨⟨isShown_iff.mpr (by decide), .plain ⟨.int ?_, by decide⟩⟩, ?_⟩
    · exact Decimal.lt_tooLong few (by decide)
    refine List.forall_mem_cons.mpr ⟨⟨isShown_iff.mpr (by decide), .plain ⟨.null, by decide⟩⟩, ?_⟩
    exact List.forall_mem_singleton.mpr ⟨isShown_iff.mpr (by decide), .plain ⟨sizes, by decide⟩⟩
  obtain ⟨c, line, fs, bound, written, printable, back, -, values⟩ :=
    exists_read_jsonLine (r := unrulyRecord) (c := ⟨_, []⟩) codec binds (by decide) rfl rfl extra "now"
  exact ⟨c, line, fs, bound, written, printable, back, values "component", values "proof", values "ts", values "level",
    values "msg"⟩

/-- A message of two halves, which are those of one character. -/
def halvesRecord : LogRecord where
  logger := "ledger"
  level := 20
  message := .text "%c%c"
  args := [.int 0xd83d, .int 0xde00]
  extra := []
  failure := none

/-- The line of such a message is read as that character, so that the message does not come back. -/
theorem read_halvesRecord :
    halvesRecord.text? = some [.half 61, .half 1536] ∧ (∀ s, CodePoint.ofText s ≠ [.half 61, .half 1536]) ∧
      ∃ (line : String) (fs : Fields), halvesRecord.jsonLine? [] "now" = some line ∧
        Json.read line.toList = .ok (.dict (Value.ofFields fs)) ∧ fs.get? "msg" = some (.text "😀") := by
  obtain ⟨line, written, -, back⟩ := (arePlain_ownFields halvesRecord "now" "😀").exists_read
  have apart (s : String) : CodePoint.ofText s ≠ [.half 61, .half 1536] := by
    rw [CodePoint.ofText]
    cases s.toList with
    | nil =>
      intro same
      cases same
    | cons c cs =>
      intro same
      cases same
  exact ⟨rfl, apart, line, _, written, back, rfl⟩

end LogRecord
end AccountInput
