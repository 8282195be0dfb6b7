import AccountInput.Proofs.Wire.Bytes

namespace AccountInput
namespace Wire

variable {α : Type}

/-- An operation that fails as a problem with the wire format, if it fails. -/
def RefusesFormat (x : Except Fault α) : Prop := FailsOnly (fun f => f.isWireFormat = true) x

theorem refusesFormat_wireFormat (message : String) {data : List (String × Value)} (plain : Problem.Plain data) :
    RefusesFormat (.error (Problem.wireFormat message data) : Except Fault α) :=
  failsOnly_error (Problem.isWireFormat_wireFormat message plain)

theorem integer_refuses (v : Value) (what : String) : RefusesFormat (integer v what) := by
  unfold integer
  split
  · exact failsOnly_ok _
  · exact refusesFormat_wireFormat _ (.cons rfl Problem.plain_nil)

theorem envelopeParts_refuses (v : Value) (what : String) : RefusesFormat (envelopeParts v what) := by
  unfold envelopeParts
  split
  · exact refusesFormat_wireFormat _ Problem.plain_nil
  split
  · split
    · exact (integer_refuses _ _).bind fun _ _ => failsOnly_ok _
    · exact refusesFormat_wireFormat _ Problem.plain_nil
  · exact refusesFormat_wireFormat _ Problem.plain_nil

theorem parts_refuses (s : Schema) (v : Value) (what : String) : RefusesFormat (parts s v what) := by
  cases s with
  | v0 => exact envelopeParts_refuses v what
  | v1 => exact failsOnly_ok _

theorem variantBody_refuses (v : Value) (what : String) : RefusesFormat (variantBody v what) := by
  unfold variantBody
  split
  · exact refusesFormat_wireFormat _ Problem.plain_nil
  · exact refusesFormat_wireFormat _ Problem.plain_nil
  split
  · split
    · exact failsOnly_ok _
    · exact refusesFormat_wireFormat _ (.cons rfl Problem.plain_nil)
  split
  · split
    · exact failsOnly_ok _
    · exact refusesFormat_wireFormat _ (.cons rfl Problem.plain_nil)
  · exact refusesFormat_wireFormat _ Problem.plain_nil

theorem reprs_of_written {vs : List Value} (written : ∀ v ∈ vs, v.repr? ≠ none) :
    ∃ ts, vs.mapM Value.repr = .ok ts := by
  induction vs with
  | nil => exact ⟨[], rfl⟩
  | cons v vs ih =>
    obtain ⟨ts, rest⟩ := ih fun w member => written w (List.mem_cons_of_mem _ member)
    obtain ⟨t, text⟩ := Option.ne_none_iff_exists'.mp (written v (List.mem_cons_self ..))
    refine ⟨t :: ts, ?_⟩
    rw [List.mapM_cons, Value.repr, text, rest]
    rfl

theorem reprs_of_unwritten {vs : List Value} {v : Value} (member : v ∈ vs) (unwritten : v.repr? = none) :
    vs.mapM Value.repr = .error .tooManyDigits := by
  induction vs with
  | nil => cases member
  | cons w vs ih =>
    rw [List.mapM_cons, Value.repr]
    cases text : w.repr? with
    | none => rfl
    | some t =>
      rcases List.mem_cons.mp member with rfl | later
      · rw [unwritten] at text
        cases text
      · rw [ih later]
        rfl

theorem recordEntries_refuses {v : Value} (what : String)
    (written : ∀ es, v.entries? = some es → ∀ k ∈ extra es, k.repr? ≠ none) :
    RefusesFormat (recordEntries v what) := by
  unfold recordEntries
  split
  · exact refusesFormat_wireFormat _ (.cons rfl Problem.plain_nil)
  · rename_i es entries
    obtain ⟨shown, reprs⟩ := reprs_of_written (written es entries)
    rw [reprs]
    change RefusesFormat (ite _ _ _)
    split
    · exact failsOnly_ok _
    · exact refusesFormat_wireFormat _ (.cons rfl (.cons rfl Problem.plain_nil))

theorem recordEntries_of_unwritten {v k : Value} {what : String} {es : List (Value × Value)}
    (entries : v.entries? = some es) (member : k ∈ extra es) (unwritten : k.repr? = none) :
    recordEntries v what = .error .tooManyDigits := by
  simp only [recordEntries, entries, reprs_of_unwritten member unwritten]
  rfl

/-- A scalar of a record whose fields are all there. -/
theorem scalar_refuses {s : Schema} {es : List (Value × Value)} (complete : missing es = []) {name : String}
    (field : name ∈ Value.scheduleFields) : RefusesFormat (scalar s es name) := by
  have found := List.filter_eq_nil_iff.mp complete name field
  rw [scalar_eq, Wire.field]
  cases lookup : Value.get? es name with
  | none => exact absurd (by rw [lookup]; rfl) found
  | some v =>
    exact (parts_refuses s v name).bind fun _ _ => (integer_refuses _ _).bind fun _ _ => failsOnly_ok _

theorem recordOfEntries_refuses {s : Schema} {es : List (Value × Value)} (complete : missing es = []) :
    RefusesFormat (recordOfEntries s es) := by
  unfold recordOfEntries
  refine (scalar_refuses complete (by decide)).bind fun _ _ => ?_
  refine (scalar_refuses complete (by decide)).bind fun _ _ => ?_
  refine (scalar_refuses complete (by decide)).bind fun _ _ => ?_
  refine (scalar_refuses complete (by decide)).bind fun _ _ => ?_
  exact (scalar_refuses complete (by decide)).bind fun _ _ => failsOnly_ok _

theorem opened_refuses (s : Schema) (content : Value) (k : Int) (what : String) :
    RefusesFormat (opened s (wrapped s content (.int k)) what) := by
  cases s with
  | v0 =>
    simp only [opened, wrapped, openEnvelope_envelope]
    split
    · exact failsOnly_ok _
    · exact refusesFormat_wireFormat _ (.cons rfl (.cons rfl Problem.plain_nil))
  | v1 => exact failsOnly_ok _

/-- A fault that is no problem of the library's own. -/
def Unreported (f : Fault) : Prop := ∀ p chained, f ≠ .problem p chained

theorem unreported_stated (kind : FaultKind) (message : String) : Unreported (.stated kind message) := nofun

theorem u64OfValue_unreported (v : Value) (name : String) : FailsOnly Unreported (u64OfValue v name) := by
  have shown : FailsOnly Unreported v.statedStr := by
    rw [Value.statedStr, Value.str]
    cases v.str? with
    | some t => exact failsOnly_ok t
    | none => exact failsOnly_error (unreported_stated _ _)
  unfold u64OfValue
  split
  · exact failsOnly_error (unreported_stated _ _)
  · split
    · exact failsOnly_ok _
    · exact shown.bind fun _ _ => failsOnly_error (unreported_stated _ _)
  · exact shown.bind fun _ _ => failsOnly_error (unreported_stated _ _)

theorem built_refuses (record : String) {r : Except Fault α} (unreported : FailsOnly Unreported r) :
    RefusesFormat (built record r) := by
  have plain : Problem.Plain [("record", .text record)] := .cons rfl Problem.plain_nil
  cases r with
  | ok a => exact failsOnly_ok a
  | error f =>
    cases f with
    | problem p chained => exact absurd rfl (unreported _ rfl p chained)
    | stated kind message => exact failsOnly_error (Problem.isWireFormat_wireFormatFrom message plain)
    | incidental kind message => exact failsOnly_error (Problem.isWireFormat_wireFormatFrom message plain)

theorem amount_refuses (v : Value) : RefusesFormat (amount v) :=
  built_refuses _ ((u64OfValue_unreported v _).map _)

theorem blockTime_refuses (v : Value) : RefusesFormat (blockTime v) :=
  built_refuses _ ((u64OfValue_unreported v _).map _)

theorem wordOf_refuses {W : Type} {read : Value → Except Fault W} (refuses : ∀ v, RefusesFormat (read v))
    {s : Schema} {es : List (Value × Value)} {field : String} {record : Value}
    (scalar : Wire.scalar s es field = .ok record) (name : String) : RefusesFormat (wordOf read s record name) := by
  obtain ⟨_, _, k, n, _, rfl⟩ := scalar_eq_ok_iff.mp scalar
  exact (opened_refuses s _ k name).bind fun _ _ => refuses _

/-- What was read from an object as the record of a schedule has the parts of one. -/
theorem ofRecord_schedule_refuses {s : Schema} {v record : Value} (read : dataOfObject s v = .ok record) :
    RefusesFormat (Schedule.ofRecord s record) := by
  obtain ⟨⟨_, map⟩, split, read⟩ := ok_of_bind read
  obtain ⟨k, rfl, _⟩ := (parts_eq_ok_iff _).mp split
  obtain ⟨es, _, read⟩ := ok_of_bind read
  obtain ⟨_, fields, same⟩ := ok_of_bind read
  cases same
  obtain ⟨a, atA, fields⟩ := ok_of_bind fields
  obtain ⟨b, atB, fields⟩ := ok_of_bind fields
  obtain ⟨c, atC, fields⟩ := ok_of_bind fields
  obtain ⟨d, atD, fields⟩ := ok_of_bind fields
  obtain ⟨e, atE, same⟩ := ok_of_bind fields
  cases same
  rw [ofRecord_schedule]
  refine (opened_refuses s _ k _).bind fun _ _ => ?_
  refine (wordOf_refuses amount_refuses atA _).bind fun _ _ => ?_
  refine (wordOf_refuses blockTime_refuses atB _).bind fun _ _ => ?_
  refine (wordOf_refuses amount_refuses atC _).bind fun _ _ => ?_
  refine (wordOf_refuses blockTime_refuses atD _).bind fun _ _ => ?_
  exact (wordOf_refuses amount_refuses atE _).bind fun _ _ => failsOnly_ok _

/-- Entries that stand in a value where the record of a schedule is looked for. -/
def RecordAt (s : Schema) (v : Value) (es : List (Value × Value)) : Prop :=
  ∃ version content data dataVersion map, Unwraps s v version content ∧
    content.items? = some (variantItems (some data)) ∧ Unwraps s data dataVersion map ∧ map.entries? = some es

theorem dataOfObject_refuses {s : Schema} {v : Value} (written : ∀ version map es, Unwraps s v version map →
    map.entries? = some es → ∀ k ∈ extra es, k.repr? ≠ none) : RefusesFormat (dataOfObject s v) := by
  refine (parts_refuses s v _).bind fun found split => ?_
  obtain ⟨_, map⟩ := found
  obtain ⟨k, _, holds⟩ := (parts_eq_ok_iff _).mp split
  refine (recordEntries_refuses _ fun es => written k map es holds).bind fun es checked => ?_
  obtain ⟨_, complete, _⟩ := (recordEntries_eq_ok_iff _).mp checked
  exact (recordOfEntries_refuses complete).bind fun _ _ => failsOnly_ok _

theorem ofObject_refuses {s : Schema} {v : Value}
    (written : ∀ es, RecordAt s v es → ∀ k ∈ extra es, k.repr? ≠ none) : RefusesFormat (Timing.ofObject s v) := by
  rw [Timing.ofObject, recordOfObject_eq, bind_assoc]
  refine (parts_refuses s v _).bind fun found split => ?_
  obtain ⟨_, content⟩ := found
  obtain ⟨k, rfl, holds⟩ := (parts_eq_ok_iff _).mp split
  rw [bind_assoc]
  refine (variantBody_refuses content _).bind fun body variant => ?_
  have items := (variantBody_eq_ok_iff _).mp variant
  cases body with
  | none =>
    rw [pure_bind, ofRecord_untimed]
    exact (opened_refuses s _ k _).bind fun _ _ => failsOnly_ok _
  | some data =>
    have inner := dataOfObject_refuses fun version map es within entries =>
      written es ⟨k, content, data, version, map, holds, items, within, entries⟩
    rw [bind_assoc]
    refine inner.bind fun record read => ?_
    rw [pure_bind, ofRecord_timed]
    refine (opened_refuses s _ k _).bind fun _ _ => ?_
    exact (ofRecord_schedule_refuses read).bind fun _ _ => failsOnly_ok _

theorem ofObject_of_unwritten {s : Schema} {v k : Value} {es : List (Value × Value)} (place : RecordAt s v es)
    (member : k ∈ extra es) (unwritten : k.repr? = none) : Timing.ofObject s v = .error .tooManyDigits := by
  obtain ⟨version, content, data, dataVersion, map, holds, items, within, entries⟩ := place
  have outer := (parts_eq_ok_iff (Value.recordName "Timing" s)).mpr ⟨version, rfl, holds⟩
  have variant := (variantBody_eq_ok_iff (Value.recordName "Timing" s)).mpr items
  have inner := (parts_eq_ok_iff (Value.recordName "TimedData" s)).mpr ⟨dataVersion, rfl, within⟩
  have refused : dataOfObject s data = .error .tooManyDigits := by
    rw [dataOfObject, inner]
    change (recordEntries map _ >>= _) = _
    rw [recordEntries_of_unwritten entries member unwritten]
    rfl
  rw [Timing.ofObject, recordOfObject_eq, outer]
  change ((variantBody content _ >>= _) >>= _) = _
  rw [variant]
  change ((dataOfObject s data >>= _) >>= _) = _
  rw [refused]
  rfl

/-- Whatever the codec makes of bytes, they are refused only as a problem with the wire format if and only
if every extra key of the record that they hold can be written. Nothing else about the bytes matters, and there
is but one other fault. -/
theorem ofBytes_refuses_iff (w : Surroundings) (s : Schema) (bs : List UInt8) :
    ((∀ f, ofBytes w bs s.version = .error f → f.isWireFormat = true) ↔
      ∀ v es, w.codec.read? bs = some v → RecordAt s v es → ∀ k ∈ extra es, k.repr? ≠ none) ∧
    ∀ f, ofBytes w bs s.version = .error f → f.isWireFormat = true ∨ f = .tooManyDigits := by
  rw [ofBytes_version, Timing.ofBytes, objectOfBytes]
  cases w.codec.read? bs with
  | none =>
    have refuses : RefusesFormat (.error (invalidBytes bs) : Except Fault Timing) :=
      failsOnly_error (isWireFormat_invalidBytes bs)
    refine ⟨⟨fun _ _ _ read => ?_, fun _ => refuses⟩, fun f run => .inl (refuses f run)⟩
    cases read
  | some v =>
    -- Both sides follow the extra keys: where one has no text, its fault comes before all others.
    by_cases written : ∀ es, RecordAt s v es → ∀ k ∈ extra es, k.repr? ≠ none
    · have refuses := ofObject_refuses written
      refine ⟨⟨fun _ _ es same => ?_, fun _ => refuses⟩, fun f run => .inl (refuses f run)⟩
      cases same
      exact written es
    · push Not at written
      obtain ⟨es, place, k, member, unwritten⟩ := written
      have escapes := ofObject_of_unwritten place member unwritten
      refine ⟨⟨fun refuses => ?_, fun written => ?_⟩, fun f run => .inr (Except.error.inj (run.symm.trans escapes))⟩
      · cases refuses _ escapes
      · exact absurd unwritten (written v es rfl place k member)

/-- The number of 1786 bytes, all of them full. It has 4302 digits. -/
def wideNumber : Nat := ofBigEndian (List.replicate 1786 0xff)

/-- The bytes of a variant whose record has that number as its only key. -/
def wideKeyBytes : List UInt8 :=
  [0x82, 0x65, 0x54, 0x69, 0x6d, 0x65, 0x64, 0xa1, 0xc2, 0x59, 0x06, 0xfa] ++ List.replicate 1786 0xff ++ [0x00]

set_option maxRecDepth 8000 in
theorem read?_wideKeyBytes :
    Cbor.Codec.standard.read? wideKeyBytes = some (.list [.text "Timed", .dict [(.int wideNumber, .int 0)]]) := by
  rfl

theorem ofBytes_wideKeyBytes :
    ofBytes (withoutFiles []) wideKeyBytes Schema.v1.version = .error .tooManyDigits ∧
      Fault.tooManyDigits.isWireFormat = false := by
  have extraKey : Value.int wideNumber ∈ extra [(.int wideNumber, .int 0)] :=
    mem_extra_iff.mpr ⟨.head _, fun name => by obtain ⟨_, _, same⟩ := List.mem_map.mp name; cases same⟩
  have long : ¬(wideNumber : Int).natAbs < Decimal.tooLong := by decide +kernel
  have unwritten : (Value.int wideNumber).repr? = none := by
    rw [Value.repr?, Decimal.text?, if_neg long]
  have place : RecordAt .v1 (.list [.text "Timed", .dict [(.int wideNumber, .int 0)]]) [(.int wideNumber, .int 0)] :=
    ⟨1, _, _, 1, _, ⟨rfl, rfl⟩, rfl, ⟨rfl, rfl⟩, rfl⟩
  refine ⟨?_, rfl⟩
  have read : (withoutFiles []).codec.read? wideKeyBytes = _ := read?_wideKeyBytes
  rw [ofBytes_version, Timing.ofBytes, objectOfBytes, read]
  exact ofObject_of_unwritten place extraKey unwritten

end Wire
end AccountInput
