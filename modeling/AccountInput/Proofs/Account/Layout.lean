import AccountInput.Proofs.HashInput.Packing
import Mathlib.Algebra.BigOperators.Ring.Finset
import Mathlib.Tactic.Ring

namespace AccountInput

/-- The number of an atom, with its width if it is packed. -/
def Atom.content (a : Atom) : Nat × Option Int := (a.value.val, a.width?)

theorem Atom.content_injective {a b : Atom} (same : a.content = b.content) : a = b := by
  obtain ⟨number, width⟩ := Prod.mk.inj same
  have value := Fp.ext number
  cases a <;> cases b <;> cases width <;> cases value <;> rfl

/-- What stands at each place of the input of timing: the mark of the variant, then the schedule that is
committed to, the amounts whole and the times by their low 32 bits. -/
def Timing.layout (t : Timing) : List (Nat × Option Int) :=
  [(t.tag, some 1), (t.schedule.initialMinimumBalance.val, none), (t.schedule.cliffTime.val % 2 ^ 32, some 32),
    (t.schedule.cliffAmount.val, none), (t.schedule.vestingPeriod.val % 2 ^ 32, some 32),
    (t.schedule.vestingIncrement.val, none)]

theorem Timing.content_atoms (t : Timing) : t.atoms.map Atom.content = t.layout := by
  have mark : (Atom.packed t.tagFp 1).content = (t.tag, some 1) := congrArg (·, some 1) t.tagFp_val
  rw [Timing.atoms, List.map_cons, mark]
  rfl

theorem ofLittleEndian_eq_sum (bs : List UInt8) :
    ofLittleEndian bs = ∑ i ∈ Finset.range bs.length, (bs.getD i 0).toNat * 256 ^ i := by
  induction bs with
  | nil => rfl
  | cons b bs ih =>
    have later : ∑ i ∈ Finset.range bs.length, ((b :: bs).getD (i + 1) 0).toNat * 256 ^ (i + 1) =
        256 * ∑ i ∈ Finset.range bs.length, (bs.getD i 0).toNat * 256 ^ i := by
      rw [Finset.mul_sum]
      refine Finset.sum_congr rfl fun i _ => ?_
      rw [List.getD_cons_succ, pow_succ]
      ring
    rw [ofLittleEndian_cons, ih, List.length_cons, Finset.sum_range_succ', later, List.getD_cons_zero]
    omega

namespace TokenSymbol

theorem length_logical (s : TokenSymbol) : s.logical.length = 6 := by
  rw [logical, List.length_take, s.length_eq]
  rfl

theorem toFp_val_eq_sum (s : TokenSymbol) :
    s.toFp.val = ∑ i ∈ Finset.range 6, (s.bytes.getD i 0).toNat * 256 ^ i := by
  have number := ofLittleEndian_eq_sum s.logical
  rw [s.length_logical] at number
  refine number.trans (Finset.sum_congr rfl fun i member => ?_)
  have within : i < maxLength := Finset.mem_range.mp member
  rw [List.getD_eq_getElem?_getD, List.getD_eq_getElem?_getD, logical, List.getElem?_take_of_lt within]

theorem toBytes_toFp (s : TokenSymbol) : s.toFp.toBytes = s.bytes.take 6 ++ List.replicate 26 0 := by
  have length : (s.bytes.take 6).length = 6 := s.length_logical
  have small : ofLittleEndian s.logical < Nat.pow 256 elementBytes :=
    Nat.lt_trans s.logical_lt_bits (by decide)
  apply ofLittleEndian_injective
  · rw [Fp.toBytes, length_littleEndian, List.length_append, length, List.length_replicate]
    rfl
  · rw [Fp.toBytes, ofLittleEndian_littleEndian, ofLittleEndian_append_zeros]
    exact Nat.mod_eq_of_lt small

end TokenSymbol

namespace HashInput

/-- The mark and the two times take 65 bits, so they share one element. -/
theorem splitOnto_timing (t : Timing) : Chunk.splitOnto [] t.hashInput.packed =
    [[(t.tagFp, 1), (t.schedule.cliffTime.toFp, 32), (t.schedule.vestingPeriod.toFp, 32)]] := rfl

theorem toFields_timing (t : Timing) : ∃ fs, t.hashInput.toFields = .ok fs ∧
    fs.map Fp.val = [t.schedule.initialMinimumBalance.val, t.schedule.cliffAmount.val,
      t.schedule.vestingIncrement.val, t.tag * 2 ^ 64 + t.schedule.cliffTime.val % 2 ^ 32 * 2 ^ 32 +
        t.schedule.vestingPeriod.val % 2 ^ 32] := by
  obtain ⟨packed, run, values⟩ := toFields_of_valid (h := t.hashInput) fun a => Timing.valid_of_mem
  refine ⟨_, run, ?_⟩
  have whole : t.hashInput.fields.map Fp.val = [t.schedule.initialMinimumBalance.val, t.schedule.cliffAmount.val,
    t.schedule.vestingIncrement.val] := rfl
  have number : Chunk.value [(t.tagFp, 1), (t.schedule.cliffTime.toFp, 32), (t.schedule.vestingPeriod.toFp, 32)] =
      t.tagFp.val * 2 ^ 64 + (t.schedule.cliffTime.low32 * 2 ^ 32 + (t.schedule.vestingPeriod.low32 * 2 ^ 0 + 0)) := rfl
  rw [splitOnto_timing, List.map_singleton, number, t.tagFp_val] at values
  rw [List.map_append, whole, values, pow_zero, Nat.mul_one, Nat.add_zero, ← Nat.add_assoc]
  rfl

/-- An operation appends atoms of given contents after those that are there, and does not fail. -/
def AppendsContents (act : Sink Unit) (contents : List (Nat × Option Int)) : Prop :=
  ∃ as, as.map Atom.content = contents ∧ ∀ h : HashInput, act.on h = (.ok (), ⟨h.atoms ++ as⟩)

/-- Encoding never fails and keeps to its layout, after whatever atoms. What a value hands out are the
atoms that it appends. The logical bytes of a symbol are packed as one number, the lowest first, and
timing alone is absorbed as four elements. -/
theorem encoders_keep_layout :
    (∀ t : Timing, AppendsContents (Sink.appendTiming (.timing t)) t.layout ∧
      AppendsContents (Sink.splice (.timing t)) t.layout) ∧
    (∀ s : TokenSymbol, ∃ x : Fp, x.val = ∑ i ∈ Finset.range 6, (s.bytes.getD i 0).toNat * 256 ^ i ∧
      x.toBytes = s.bytes.take 6 ++ List.replicate 26 0 ∧
      AppendsContents (Sink.appendSymbol (.symbol s)) [(x.val, some 48)] ∧
      AppendsContents (Sink.splice (.symbol s)) [(x.val, some 48)]) ∧
    ∀ t : Timing, ∃ h fs, (Sink.appendTiming (.timing t)).fresh = .ok h ∧ h.toFields = .ok fs ∧
      fs.map Fp.val = [t.schedule.initialMinimumBalance.val, t.schedule.cliffAmount.val,
        t.schedule.vestingIncrement.val, t.tag * 2 ^ 64 + t.schedule.cliffTime.val % 2 ^ 32 * 2 ^ 32 +
          t.schedule.vestingPeriod.val % 2 ^ 32] := by
  have timing (t : Timing) := Sink.appends_timing (.timing t)
  have symbol (s : TokenSymbol) := Sink.appends_symbol (.symbol s)
  refine ⟨fun t => ?_, fun s => ?_, fun t => ?_⟩
  · have handed := Sink.appends_splice (.timing t)
    exact ⟨⟨t.atoms, t.content_atoms, timing t⟩, ⟨t.atoms, t.content_atoms, handed⟩⟩
  · have handed := Sink.appends_splice (.symbol s)
    exact ⟨s.toFp, s.toFp_val_eq_sum, s.toBytes_toFp, ⟨s.atoms, rfl, symbol s⟩, ⟨s.atoms, rfl, handed⟩⟩
  · obtain ⟨fs, absorbed, values⟩ := toFields_timing t
    exact ⟨t.hashInput, fs, (timing t).fresh_eq, absorbed, values⟩

end HashInput
end AccountInput
