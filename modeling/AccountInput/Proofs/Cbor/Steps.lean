import AccountInput.Cbor.Reader

namespace AccountInput
namespace Cbor

/-- What follows a head, by its kind and its argument. -/
def readContent (fuel depth : Nat) (asKey : Bool) (m : Memory) (bs : List UInt8) :
    (major : Nat) → Argument → Option (Value × Memory × List UInt8)
  | 0, .number n => some (.int n, m, bs)
  | 1, .number n => some (.int (-1 - n), m, bs)
  | 2, a => (readBytes fuel a bs).map fun (v, rest) => (v, m.noted a v, rest)
  | 3, a => (readText fuel a bs).map fun (v, rest) => (v, m.noted a v, rest)
  | 4, a =>
    if depth = 0 then none
    else (readItems fuel (depth - 1) asKey a.count m bs).map fun (vs, m, rest) => (sequence asKey vs, m, rest)
  | 5, a =>
    if depth = 0 then none
    else (readEntries fuel (depth - 1) asKey a.count m bs).bind fun (es, m, rest) =>
      (mapping asKey es).map fun v => (v, m, rest)
  | 6, .number tag =>
    if depth = 0 then none
    else
      (readItem fuel (depth - 1) (asKey || Tag.fixesContent tag) (m.entering tag asKey bs) bs).bind
        fun (content, inside, rest) =>
          (inside.ofTag asKey tag content).map fun v => (v, m.leaving tag content inside, rest)
  | _, _ => none

theorem readItem_cons (fuel depth : Nat) (asKey : Bool) (m : Memory) (b : UInt8) (bs : List UInt8) :
    readItem (fuel + 1) depth asKey m (b :: bs) =
      if b.toNat / 32 = 7 then (readSimple (b.toNat % 32) bs).map fun (v, rest) => (v, m, rest)
      else (argument (b.toNat % 32) bs).bind fun (a, bs) => readContent fuel depth asKey m bs (b.toNat / 32) a := by
  rw [readItem]
  split
  · rfl
  cases argument (b.toNat % 32) bs with
  | none => rfl
  | some found =>
    obtain ⟨a, bs⟩ := found
    generalize b.toNat / 32 = major
    simp only [Option.bind_some, bind]
    split
    · rfl
    · rfl
    all_goals simp only [readContent, Option.map_eq_bind]
    all_goals rfl

theorem readContent_list (fuel depth : Nat) (m : Memory) (n : Nat) (bs : List UInt8) :
    readContent fuel (depth + 1) false m bs 4 (.number n) =
      (readItems fuel depth false (some n) m bs).map fun (vs, m, rest) => (.list vs, m, rest) := by
  rw [readContent, if_neg (Nat.succ_ne_zero depth)]
  rfl

theorem readContent_map (fuel depth : Nat) (m : Memory) (n : Nat) (bs : List UInt8) :
    readContent fuel (depth + 1) false m bs 5 (.number n) =
      (readEntries fuel depth false (some n) m bs).bind fun (es, m, rest) =>
        (mapping false es).map fun v => (v, m, rest) := by
  rw [readContent, if_neg (Nat.succ_ne_zero depth)]
  rfl

theorem readItems_zero (fuel depth : Nat) (asKey : Bool) (m : Memory) :
    readItems (fuel + 1) depth asKey (some 0) m = fun bs => some ([], m, bs) := rfl

theorem readItems_one (fuel depth : Nat) (asKey : Bool) (n : Nat) (m : Memory) :
    readItems (fuel + 1) depth asKey (some (n + 1)) m = fun bs =>
      (readItem fuel depth asKey m bs).bind fun (v, m, bs) =>
        (readItems fuel depth asKey (some n) m bs).map fun (vs, m, rest) => (v :: vs, m, rest) := by
  funext bs
  rw [readItems]
  simp only [ended, Option.map_eq_bind]
  rfl

theorem readEntries_zero (fuel depth : Nat) (asKey : Bool) (m : Memory) :
    readEntries (fuel + 1) depth asKey (some 0) m = fun bs => some ([], m, bs) := rfl

theorem readEntries_one (fuel depth : Nat) (asKey : Bool) (n : Nat) (m : Memory) :
    readEntries (fuel + 1) depth asKey (some (n + 1)) m = fun bs =>
      (readItem fuel depth true m bs).bind fun (k, m, bs) =>
        (readItem fuel depth asKey m bs).bind fun (v, m, bs) =>
          (readEntries fuel depth asKey (some n) m bs).map fun (es, m, rest) => ((k, v) :: es, m, rest) := by
  funext bs
  rw [readEntries]
  simp only [ended, Option.map_eq_bind]
  rfl

/-- The bytes that a number says, and what follows them. -/
theorem eq_append_of_split {n : Nat} {bs taken rest : List UInt8} (run : split n bs = some (taken, rest)) :
    bs = taken ++ rest ∧ taken.length = n := by
  induction n generalizing bs taken with
  | zero =>
    cases run
    exact ⟨rfl, rfl⟩
  | succ n ih =>
    cases bs with
    | nil => cases run
    | cons b bs =>
      obtain ⟨⟨others, left⟩, found, same⟩ := Option.map_eq_some_iff.mp run
      cases same
      obtain ⟨parts, count⟩ := ih found
      exact ⟨congrArg (b :: ·) parts, congrArg (· + 1) count⟩

theorem length_rest_of_split {n : Nat} {bs taken rest : List UInt8} (run : split n bs = some (taken, rest)) :
    rest.length ≤ bs.length := by
  rw [(eq_append_of_split run).1, List.length_append]
  exact Nat.le_add_left ..

theorem length_rest_of_wide {width : Nat} {bs rest : List UInt8} {a : Argument}
    (run : wide width bs = some (a, rest)) : rest.length ≤ bs.length := by
  obtain ⟨⟨taken, left⟩, found, same⟩ := Option.map_eq_some_iff.mp run
  cases same
  exact length_rest_of_split found

theorem length_rest_of_argument {info : Nat} {bs rest : List UInt8} {a : Argument}
    (run : argument info bs = some (a, rest)) : rest.length ≤ bs.length := by
  unfold argument at run
  split at run
  · cases run
    exact Nat.le_refl _
  split at run
  · exact length_rest_of_wide run
  split at run
  · exact length_rest_of_wide run
  split at run
  · exact length_rest_of_wide run
  split at run
  · exact length_rest_of_wide run
  split at run
  · cases run
    exact Nat.le_refl _
  · cases run

theorem length_rest_of_chunks {major fuel : Nat} {bs rest : List UInt8} {cs : List (List UInt8)}
    (run : chunks major fuel bs = some (cs, rest)) : rest.length ≤ bs.length := by
  induction fuel generalizing bs cs with
  | zero => cases run
  | succ fuel ih =>
    cases bs with
    | nil => cases run
    | cons b bs =>
      rw [chunks] at run
      split at run
      · cases run
        exact Nat.le_succ _
      split at run
      · cases run
      obtain ⟨⟨a, left⟩, head, run⟩ := Option.bind_eq_some_iff.mp run
      cases a with
      | openEnded => cases run
      | number n =>
        obtain ⟨⟨chunk, behind⟩, first, run⟩ := Option.bind_eq_some_iff.mp run
        obtain ⟨⟨others, last⟩, further, same⟩ := Option.bind_eq_some_iff.mp run
        cases same
        have afterHead := length_rest_of_argument head
        have afterChunk := length_rest_of_split first
        have afterAll := ih further
        simp only [List.length_cons]
        omega

theorem length_rest_of_stringChunks {major fuel : Nat} {a : Argument} {bs rest : List UInt8}
    {cs : List (List UInt8)} (run : stringChunks major fuel a bs = some (cs, rest)) :
    rest.length ≤ bs.length := by
  cases a with
  | number n =>
    obtain ⟨⟨chunk, left⟩, found, same⟩ := Option.map_eq_some_iff.mp run
    cases same
    exact length_rest_of_split found
  | openEnded => exact length_rest_of_chunks run

theorem length_rest_of_readBytes {fuel : Nat} {a : Argument} {bs rest : List UInt8} {v : Value}
    (run : readBytes fuel a bs = some (v, rest)) : rest.length ≤ bs.length := by
  obtain ⟨⟨cs, left⟩, found, same⟩ := Option.bind_eq_some_iff.mp run
  cases same
  exact length_rest_of_stringChunks found

theorem length_rest_of_readText {fuel : Nat} {a : Argument} {bs rest : List UInt8} {v : Value}
    (run : readText fuel a bs = some (v, rest)) : rest.length ≤ bs.length := by
  obtain ⟨⟨cs, left⟩, found, run⟩ := Option.bind_eq_some_iff.mp run
  obtain ⟨ts, decoded, same⟩ := Option.bind_eq_some_iff.mp run
  cases same
  exact length_rest_of_stringChunks found

theorem length_rest_of_readFloat {size width places : Nat} {bs rest : List UInt8} {v : Value}
    (run : readFloat size width places bs = some (v, rest)) : rest.length ≤ bs.length := by
  obtain ⟨⟨taken, left⟩, found, same⟩ := Option.map_eq_some_iff.mp run
  cases same
  exact length_rest_of_split found

theorem length_rest_of_readSimple {info : Nat} {bs rest : List UInt8} {v : Value}
    (run : readSimple info bs = some (v, rest)) : rest.length ≤ bs.length := by
  unfold readSimple at run
  split at run
  · cases run
    exact Nat.le_refl _
  · cases run
    exact Nat.le_refl _
  · cases run
    exact Nat.le_refl _
  · cases run
    exact Nat.le_refl _
  · split at run
    · split at run
      · cases run
      · cases run
        exact Nat.le_succ _
    · cases run
  · exact length_rest_of_readFloat run
  · exact length_rest_of_readFloat run
  · exact length_rest_of_readFloat run
  · split at run
    · cases run
      exact Nat.le_refl _
    · cases run

theorem length_rest_of_ended {count : Option Nat} {bs rest : List UInt8} (run : ended count bs = some rest) :
    rest.length ≤ bs.length := by
  unfold ended at run
  split at run
  · cases run
    exact Nat.le_refl _
  · split at run
    · cases run
      exact Nat.le_succ _
    · cases run
  · cases run

/-- Every item takes a byte, and no reading gives bytes back. -/
structure Progress (fuel : Nat) : Prop where
  item {depth : Nat} {asKey : Bool} {m left : Memory} {bs rest : List UInt8} {v : Value} :
    readItem fuel depth asKey m bs = some (v, left, rest) → rest.length < bs.length
  items {depth : Nat} {asKey : Bool} {count : Option Nat} {m left : Memory} {bs rest : List UInt8}
    {vs : List Value} : readItems fuel depth asKey count m bs = some (vs, left, rest) → rest.length ≤ bs.length
  entries {depth : Nat} {asKey : Bool} {count : Option Nat} {m left : Memory} {bs rest : List UInt8}
    {es : List (Value × Value)} :
    readEntries fuel depth asKey count m bs = some (es, left, rest) → rest.length ≤ bs.length

theorem Progress.content {fuel depth major : Nat} {asKey : Bool} {m left : Memory} {a : Argument}
    {bs rest : List UInt8} {v : Value} (progress : Progress fuel)
    (run : readContent fuel depth asKey m bs major a = some (v, left, rest)) : rest.length ≤ bs.length := by
  unfold readContent at run
  split at run
  · cases run
    exact Nat.le_refl _
  · cases run
    exact Nat.le_refl _
  · obtain ⟨⟨w, last⟩, found, same⟩ := Option.map_eq_some_iff.mp run
    cases same
    exact length_rest_of_readBytes found
  · obtain ⟨⟨w, last⟩, found, same⟩ := Option.map_eq_some_iff.mp run
    cases same
    exact length_rest_of_readText found
  · split at run
    · cases run
    · obtain ⟨⟨vs, inside, last⟩, found, same⟩ := Option.map_eq_some_iff.mp run
      cases same
      exact progress.items found
  · split at run
    · cases run
    · obtain ⟨⟨es, inside, last⟩, found, run⟩ := Option.bind_eq_some_iff.mp run
      obtain ⟨w, mapped, same⟩ := Option.map_eq_some_iff.mp run
      cases same
      exact progress.entries found
  · split at run
    · cases run
    · obtain ⟨⟨c, inside, last⟩, found, run⟩ := Option.bind_eq_some_iff.mp run
      obtain ⟨w, tagged, same⟩ := Option.map_eq_some_iff.mp run
      cases same
      exact Nat.le_of_lt (progress.item found)
  · cases run

theorem progress (fuel : Nat) : Progress fuel := by
  induction fuel with
  | zero =>
    refine ⟨fun run => ?_, fun run => ?_, fun run => ?_⟩
    · rw [readItem] at run
      cases run
    · rw [readItems] at run
      cases run
    · rw [readEntries] at run
      cases run
  | succ fuel ih =>
    refine ⟨fun {_ _ _ _ bs _ _} run => ?_, fun run => ?_, fun run => ?_⟩
    · cases bs with
      | nil =>
        rw [readItem] at run
        · cases run
        · exact Nat.succ_ne_zero fuel
      | cons b bs =>
        rw [readItem_cons] at run
        split at run
        · obtain ⟨⟨w, last⟩, found, same⟩ := Option.map_eq_some_iff.mp run
          cases same
          exact Nat.lt_succ_of_le (length_rest_of_readSimple found)
        · obtain ⟨⟨a, last⟩, head, content⟩ := Option.bind_eq_some_iff.mp run
          have afterHead := length_rest_of_argument head
          have afterContent := ih.content content
          simp only [List.length_cons]
          omega
    · rw [readItems] at run
      split at run
      · rename_i ends
        cases run
        exact length_rest_of_ended ends
      · obtain ⟨⟨v, inside, behind⟩, first, run⟩ := Option.bind_eq_some_iff.mp run
        obtain ⟨⟨vs, left, last⟩, further, same⟩ := Option.bind_eq_some_iff.mp run
        cases same
        have afterFirst := ih.item first
        have afterAll := ih.items further
        omega
    · rw [readEntries] at run
      split at run
      · rename_i ends
        cases run
        exact length_rest_of_ended ends
      · obtain ⟨⟨k, inside, behind⟩, key, run⟩ := Option.bind_eq_some_iff.mp run
        obtain ⟨⟨v, inside', behind'⟩, value, run⟩ := Option.bind_eq_some_iff.mp run
        obtain ⟨⟨es, left, last⟩, further, same⟩ := Option.bind_eq_some_iff.mp run
        cases same
        have afterKey := ih.item key
        have afterValue := ih.item value
        have afterAll := ih.entries further
        omega

theorem chunks_succ {major fuel : Nat} {bs : List UInt8} (enough : bs.length < fuel) :
    chunks major (fuel + 1) bs = chunks major fuel bs := by
  induction fuel generalizing bs with
  | zero => exact absurd enough (Nat.not_lt_zero _)
  | succ fuel ih =>
    cases bs with
    | nil => rfl
    | cons b bs =>
      rw [chunks, chunks]
      simp only [List.length_cons] at enough
      cases head : argument (b.toNat % 32) bs with
      | none => rfl
      | some found =>
        obtain ⟨a, left⟩ := found
        cases a with
        | openEnded => rfl
        | number n =>
          cases first : split n left with
          | none => simp only [first, bind, Option.bind_some, Option.bind_none]
          | some found =>
            obtain ⟨chunk, behind⟩ := found
            have afterHead := length_rest_of_argument head
            have afterChunk := length_rest_of_split first
            simp only [first, bind, Option.bind_some, ih (show behind.length < fuel by omega)]

theorem stringChunks_succ {major fuel : Nat} {a : Argument} {bs : List UInt8} (enough : bs.length < fuel) :
    stringChunks major (fuel + 1) a bs = stringChunks major fuel a bs := by
  cases a with
  | number n => rfl
  | openEnded => exact chunks_succ enough

theorem readBytes_succ {fuel : Nat} {a : Argument} {bs : List UInt8} (enough : bs.length < fuel) :
    readBytes (fuel + 1) a bs = readBytes fuel a bs := by
  rw [readBytes, readBytes, stringChunks_succ enough]

theorem readText_succ {fuel : Nat} {a : Argument} {bs : List UInt8} (enough : bs.length < fuel) :
    readText (fuel + 1) a bs = readText fuel a bs := by
  rw [readText, readText, stringChunks_succ enough]

/-- One step more changes nothing where the steps are enough. -/
structure Settled (fuel : Nat) : Prop where
  item (depth : Nat) (asKey : Bool) (m : Memory) {bs : List UInt8} : 2 * bs.length + 2 ≤ fuel →
    readItem (fuel + 1) depth asKey m bs = readItem fuel depth asKey m bs
  items (depth : Nat) (asKey : Bool) (count : Option Nat) (m : Memory) {bs : List UInt8} :
    2 * bs.length + 3 ≤ fuel →
      readItems (fuel + 1) depth asKey count m bs = readItems fuel depth asKey count m bs
  entries (depth : Nat) (asKey : Bool) (count : Option Nat) (m : Memory) {bs : List UInt8} :
    2 * bs.length + 3 ≤ fuel →
      readEntries (fuel + 1) depth asKey count m bs = readEntries fuel depth asKey count m bs

theorem Settled.content {fuel : Nat} (settled : Settled fuel) (depth : Nat) (asKey : Bool) (m : Memory)
    (major : Nat) (a : Argument) {bs : List UInt8} (enough : 2 * bs.length + 3 ≤ fuel) :
    readContent (fuel + 1) depth asKey m bs major a = readContent fuel depth asKey m bs major a := by
  have string : bs.length < fuel := by omega
  have item : 2 * bs.length + 2 ≤ fuel := by omega
  unfold readContent
  split
  · rfl
  · rfl
  · rw [readBytes_succ string]
  · rw [readText_succ string]
  · rw [settled.items _ _ _ _ enough]
  · rw [settled.entries _ _ _ _ enough]
  · rw [settled.item _ _ _ item]
  · rfl

theorem settled (fuel : Nat) : Settled fuel := by
  -- On the steps: two of them go with each byte, one into the item and one on to the next.
  induction fuel with
  | zero => exact ⟨fun _ _ _ _ enough => by omega, fun _ _ _ _ _ enough => by omega,
      fun _ _ _ _ _ enough => by omega⟩
  | succ fuel ih =>
    refine ⟨fun depth asKey m bs enough => ?_, fun depth asKey count m bs enough => ?_,
      fun depth asKey count m bs enough => ?_⟩
    · cases bs with
      | nil =>
        rw [readItem, readItem]
        · exact Nat.succ_ne_zero fuel
        · exact Nat.succ_ne_zero (fuel + 1)
      | cons b bs =>
        simp only [List.length_cons] at enough
        rw [readItem_cons, readItem_cons]
        cases head : argument (b.toNat % 32) bs with
        | none => rfl
        | some found =>
          obtain ⟨a, left⟩ := found
          have afterHead := length_rest_of_argument head
          simp only [Option.bind_some]
          rw [ih.content depth asKey m (b.toNat / 32) a (by omega)]
    · rw [readItems, readItems]
      cases ended count bs with
      | some rest => rfl
      | none =>
        simp only
        rw [ih.item depth asKey m (by omega)]
        cases first : readItem fuel depth asKey m bs with
        | none => rfl
        | some found =>
          obtain ⟨v, inside, left⟩ := found
          have afterFirst := (progress fuel).item first
          simp only [bind, Option.bind_some]
          rw [ih.items depth asKey _ inside (by omega)]
    · rw [readEntries, readEntries]
      cases ended count bs with
      | some rest => rfl
      | none =>
        simp only
        rw [ih.item depth true m (by omega)]
        cases key : readItem fuel depth true m bs with
        | none => rfl
        | some found =>
          obtain ⟨k, inside, left⟩ := found
          have afterKey := (progress fuel).item key
          simp only [bind, Option.bind_some]
          rw [ih.item depth asKey inside (by omega)]
          cases value : readItem fuel depth asKey inside left with
          | none => rfl
          | some found =>
            obtain ⟨v, inside', left'⟩ := found
            have afterValue := (progress fuel).item value
            simp only [Option.bind_some]
            rw [ih.entries depth asKey _ inside' (by omega)]

theorem readItem_of_enough {fuel : Nat} {bs : List UInt8} (enough : 2 * bs.length + 2 ≤ fuel) (depth : Nat)
    (asKey : Bool) (m : Memory) :
    readItem fuel depth asKey m bs = readItem (2 * bs.length + 2) depth asKey m bs := by
  induction enough with
  | refl => rfl
  | step enough ih => exact ((settled _).item depth asKey m enough).trans ih

/-- What bytes stand for is what any reading of enough steps gives. -/
theorem read?_eq_readItem {fuel : Nat} {bs : List UInt8} (enough : 2 * bs.length + 2 ≤ fuel) :
    read? bs = (readItem fuel depthLimit false .empty bs).map (·.1) := by
  rw [readItem_of_enough enough, read?]

end Cbor
end AccountInput
