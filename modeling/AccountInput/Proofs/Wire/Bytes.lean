import AccountInput.Proofs.Cbor.Framing
import AccountInput.Proofs.Problem
import AccountInput.Proofs.Wire.Object

namespace AccountInput
namespace Wire

theorem wrapItem_fits {s : Schema} {i : Cbor.Item} {depth : Nat} (fits : i.Fits depth) :
    (wrapItem s i).Fits (depth + 1) := by
  cases s with
  | v0 =>
    have names : [versionName, contentName].Nodup := by decide
    have short : ∀ name ∈ [versionName, contentName], (Utf8.ofString name).length < UInt64.size := by decide
    refine .map (show 2 < UInt64.size by decide) names ?_ ?_
    · intro e member
      rcases List.mem_pair.mp member with rfl | rfl
      · exact short _ (.head _)
      · exact short _ (.tail _ (.head _))
    · intro e member
      rcases List.mem_pair.mp member with rfl | rfl
      · exact .word 1
      · exact fits
  | v1 => exact fits.mono (Nat.le_succ depth)

theorem schedule_fits (d : Schedule) (s : Schema) : (d.toItem s).Fits 3 := by
  have short : ∀ name ∈ Value.scheduleFields, (Utf8.ofString name).length < UInt64.size := by decide
  rw [toItem_eq]
  refine wrapItem_fits (.map (show 5 < UInt64.size by decide) nodup_scheduleFields ?_ ?_)
  · exact fun e member => short e.1 (List.of_mem_zip member).1
  · intro e member
    obtain ⟨n, _, word⟩ := List.mem_map.mp (List.of_mem_zip member).2
    rw [← word]
    exact wrapItem_fits (.word n)

theorem timing_fits (t : Timing) (s : Schema) : (t.toItem s).Fits Cbor.depthLimit := by
  have short : ∀ name ∈ [untimedName, timedName], (Utf8.ofString name).length < UInt64.size := by decide
  cases t with
  | untimed =>
    have items : ∀ i ∈ [Cbor.Item.text untimedName], i.Fits 3 := by
      intro i member
      cases List.mem_singleton.mp member
      exact .text (short _ (.head _))
    have variant : (Cbor.Item.list [.text untimedName]).Fits 4 := .list (show 1 < UInt64.size by decide) items
    exact (wrapItem_fits variant).mono (by decide)
  | timed d =>
    have items : ∀ i ∈ [Cbor.Item.text timedName, d.toItem s], i.Fits 3 := by
      intro i member
      rcases List.mem_pair.mp member with rfl | rfl
      · exact .text (short _ (.tail _ (.head _)))
      · exact schedule_fits d s
    have variant : (Cbor.Item.list [.text timedName, d.toItem s]).Fits 4 :=
      .list (show 2 < UInt64.size by decide) items
    exact (wrapItem_fits variant).mono (by decide)

theorem toBytes_version (w : Surroundings) (t : Timing) (s : Schema) :
    toBytes w (.timing t) s.version = .ok (t.toBytes w.codec s) := by
  rw [toBytes, resolve_version]
  rfl

theorem ofBytes_version (w : Surroundings) (bs : List UInt8) (s : Schema) :
    ofBytes w bs s.version = Timing.ofBytes w.codec s bs := by
  rw [ofBytes, resolve_version]
  rfl

variable {c : Cbor.Codec} {w : Surroundings}

theorem ofBytes_toBytes_append (canonical : c.WritesCanonical) (first : c.ReadsFirst) (t : Timing) (s : Schema)
    (rest : List UInt8) : Timing.ofBytes c s (t.toBytes c s ++ rest) = .ok t := by
  have fits := timing_fits t s
  rw [Timing.ofBytes, objectOfBytes, Timing.toBytes, canonical, first _ rest fits]
  exact (ofObject_eq_ok_iff_givenBy fits.keysDistinct_canonical).mpr (Cbor.Item.toValue_givenBy_canonical _)

/-- Timing is written under a version as bytes that are read back as it, whatever follows them, and
with which the bytes of no other timing begin. -/
def ReadsBack (w : Surroundings) (version : Value) (t : Timing) : Prop :=
  ∃ bs, toBytes w (.timing t) version = .ok bs ∧ (∀ rest, ofBytes w (bs ++ rest) version = .ok t) ∧
    ∀ u cs, toBytes w (.timing u) version = .ok cs → bs <+: cs → u = t

theorem readsBack_of_resolve (canonical : w.codec.WritesCanonical) (first : w.codec.ReadsFirst) {version : Value}
    {s : Schema} (schema : resolve w version = .ok s) (t : Timing) : ReadsBack w version t := by
  have written (u : Timing) : toBytes w (.timing u) version = .ok (u.toBytes w.codec s) := by
    rw [toBytes, schema]
    rfl
  have read (u : Timing) (rest : List UInt8) : ofBytes w (u.toBytes w.codec s ++ rest) version = .ok u := by
    rw [ofBytes, schema]
    exact ofBytes_toBytes_append canonical first u s rest
  refine ⟨t.toBytes w.codec s, written t, read t, fun u cs other begins => ?_⟩
  obtain ⟨rest, rfl⟩ := begins
  have whole := read u []
  rw [List.append_nil, Except.ok.inj ((written u).symm.trans other), read t rest] at whole
  exact (Except.ok.inj whole).symm

/-- With a codec that writes items in canonical form and reads the first one, timing reads back under
either version, and also without one wherever the settings can be loaded: its bytes are then those of
the version in the settings. -/
theorem timing_readsBack (w : Surroundings) (canonical : w.codec.WritesCanonical) (first : w.codec.ReadsFirst)
    (t : Timing) :
    (∀ s : Schema, ReadsBack w s.version t) ∧
    ∀ settings, Config.load w .null [] = .ok settings →
      ReadsBack w .null t ∧ toBytes w (.timing t) .null = toBytes w (.timing t) settings.wireVersion := by
  refine ⟨fun s => readsBack_of_resolve canonical first (resolve_version w s) t, fun settings loaded => ?_⟩
  obtain ⟨s, unnamed, named⟩ := resolve_null_of_load loaded
  refine ⟨readsBack_of_resolve canonical first unnamed t, ?_⟩
  rw [toBytes, toBytes, unnamed, named]

theorem timing_readsBack_configured :
    Config.load (withoutFiles [("LEDGER_WIRE_VERSION", "0")]) .null [] =
      .ok ⟨.text "INFO", .null, .int 0⟩ ∧
    ReadsBack (withoutFiles [("LEDGER_WIRE_VERSION", "0")]) .null (.timed .default) := by
  have loaded : Config.load (withoutFiles [("LEDGER_WIRE_VERSION", "0")]) .null [] =
      .ok ⟨.text "INFO", .null, .int 0⟩ := by
    have version : Settings.isWireVersion (.int 0) = true := by
      simp only [Settings.isWireVersion, Value.equal_int]
      rfl
    have valid : Settings.validate ⟨.text "INFO", .null, .int 0⟩ = .ok () := if_pos version
    change (Settings.validate ⟨.text "INFO", .null, .int 0⟩ >>= fun _ => _) = _
    rw [valid]
    rfl
  have readsBack := timing_readsBack (withoutFiles [("LEDGER_WIRE_VERSION", "0")]) Cbor.Codec.standard_writesCanonical
    Cbor.Codec.standard_readsFirst (.timed .default)
  exact ⟨loaded, (readsBack.2 _ loaded).1⟩

theorem isWireFormat_invalidBytes (bs : List UInt8) : (invalidBytes bs).isWireFormat = true :=
  Problem.isWireFormat_wireFormatFrom _ (.cons rfl Problem.plain_nil)

/-- With a codec that writes items in canonical form and refuses what ends inside one, the bytes of timing
are refused wherever they break off, as a problem with the wire format. -/
theorem ofBytes_of_cut (w : Surroundings) (canonical : w.codec.WritesCanonical) (cut : w.codec.RefusesCut) (t : Timing)
    (s : Schema) {bs p : List UInt8} (written : toBytes w (.timing t) s.version = .ok bs) (begins : p <+: bs) (short : p ≠ bs) :
    ∃ f, ofBytes w p s.version = .error f ∧ f.isWireFormat = true := by
  obtain rfl : t.toBytes w.codec s = bs := Except.ok.inj ((toBytes_version w t s).symm.trans written)
  rw [Timing.toBytes, canonical] at begins short
  refine ⟨invalidBytes p, ?_, isWireFormat_invalidBytes p⟩
  rw [ofBytes, objectOfBytes, cut _ p (timing_fits t s) begins short]
  rfl

/-- The head of a name, without the name. -/
theorem ofBytes_of_cut_name :
    toBytes (withoutFiles []) (.timing .untimed) Schema.v1.version =
      .ok [0x81, 0x67, 0x55, 0x6e, 0x74, 0x69, 0x6d, 0x65, 0x64] ∧
    ∃ f, ofBytes (withoutFiles []) [0x81, 0x67] Schema.v1.version = .error f ∧
      f.isWireFormat = true := by
  have bytes : Timing.untimed.toBytes .standard .v1 = [0x81, 0x67, 0x55, 0x6e, 0x74, 0x69, 0x6d, 0x65, 0x64] := by
    decide +kernel
  have written := (toBytes_version (withoutFiles []) .untimed .v1).trans
    (congrArg Except.ok bytes)
  exact ⟨written, ofBytes_of_cut (withoutFiles []) Cbor.Codec.standard_writesCanonical Cbor.Codec.standard_refusesCut
    .untimed .v1 written (by decide) (by decide)⟩

end Wire
end AccountInput
