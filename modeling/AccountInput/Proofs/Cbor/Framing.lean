import AccountInput.Cbor.Codec
import AccountInput.Proofs.Cbor.Canonical
import AccountInput.Proofs.Cbor.Steps
import AccountInput.Proofs.Text.Utf8

namespace AccountInput
namespace Cbor

variable {β γ : Type}

/-- A reading that takes exactly the bytes `bs`, and gives `result rest` where `rest` follows them. No
proper beginning of the bytes is enough for it. -/
structure Frames (read : List UInt8 → Option β) (bs : List UInt8) (result : List UInt8 → β) : Prop where
  whole (rest : List UInt8) : read (bs ++ rest) = some (result rest)
  cut {p : List UInt8} : p <+: bs → p ≠ bs → read p = none

namespace Frames

theorem nothing (result : List UInt8 → β) : Frames (fun bs => some (result bs)) [] result where
  whole _ := rfl
  cut short proper := absurd (List.prefix_nil.mp short) proper

theorem bind {read : List UInt8 → Option β} {next : β → Option γ} {bs cs : List UInt8}
    {first : List UInt8 → β} {second : List UInt8 → γ} (frames : Frames read bs first)
    (then_ : Frames (fun rest => next (first rest)) cs second) :
    Frames (fun x => (read x).bind next) (bs ++ cs) second where
  whole rest := by
    rw [List.append_assoc, frames.whole, Option.bind_some]
    exact then_.whole rest
  cut {p} short proper := by
    -- The bytes end inside the first part, just after it, or inside the second.
    rcases List.prefix_or_prefix_of_prefix short (List.prefix_append bs cs) with inside | ⟨q, rfl⟩
    · by_cases all : p = bs
      · subst all
        have missing : [] ≠ cs := fun none => proper (by rw [← none, List.append_nil])
        have found := frames.whole []
        rw [List.append_nil] at found
        rw [found, Option.bind_some]
        exact then_.cut (List.nil_prefix) missing
      · rw [frames.cut inside all, Option.bind_none]
    · have other : q ≠ cs := fun same => proper (congrArg (bs ++ ·) same)
      rw [frames.whole, Option.bind_some]
      exact then_.cut ((List.prefix_append_right_inj bs).mp short) other

theorem map {read : List UInt8 → Option β} {bs : List UInt8} {result : List UInt8 → β}
    (frames : Frames read bs result) (f : β → γ) : Frames (fun x => (read x).map f) bs fun rest => f (result rest) where
  whole rest := by rw [frames.whole, Option.map_some]
  cut short proper := by rw [frames.cut short proper, Option.map_none]

/-- A reading that looks at one byte and goes on. -/
theorem cons {read : List UInt8 → Option β} {b : UInt8} {bs : List UInt8} {result : List UInt8 → β}
    (empty : read [] = none) (frames : Frames (fun x => read (b :: x)) bs result) :
    Frames read (b :: bs) result where
  whole rest := frames.whole rest
  cut {p} short proper := by
    rcases List.prefix_cons_iff.mp short with rfl | ⟨q, rfl, inside⟩
    · exact empty
    · exact frames.cut inside fun same => proper (congrArg (b :: ·) same)

end Frames

theorem frames_split (bs : List UInt8) : Frames (split bs.length) bs fun rest => (bs, rest) := by
  induction bs with
  | nil => exact .nothing _
  | cons b bs ih => exact .cons rfl (ih.map _)

theorem frames_wide {width n : Nat} (fits : n < Nat.pow 256 width) :
    Frames (wide width) (bigEndian width n) fun rest => (.number n, rest) := by
  have frames := (frames_split (bigEndian width n)).map fun found =>
    (Argument.number (ofBigEndian found.1), found.2)
  simp only [length_bigEndian, ofBigEndian_bigEndian, Nat.mod_eq_of_lt fits] at frames
  exact frames

theorem initial_div {major info : Nat} (kind : major < 8) (low : info < 32) :
    (initial major info).toNat / 32 = major := by
  rw [initial, UInt8.toNat_ofNat_of_lt' (show major * 32 + info < 256 by omega)]
  omega

theorem initial_mod {major info : Nat} (kind : major < 8) (low : info < 32) :
    (initial major info).toNat % 32 = info := by
  rw [initial, UInt8.toNat_ofNat_of_lt' (show major * 32 + info < 256 by omega)]
  omega

/-- A head is a byte that tells its kind and announces its argument, and the argument. -/
theorem head_eq (major : Nat) {n : Nat} (fits : n < UInt64.size) : ∃ info args, info < 32 ∧
    head major n = initial major info :: args ∧ Frames (argument info) args fun rest => (.number n, rest) := by
  unfold head
  split
  · rename_i small
    have immediate : argument n = fun bs => some (.number n, bs) := funext fun bs => if_pos small
    refine ⟨n, [], by omega, rfl, ?_⟩
    rw [immediate]
    exact .nothing _
  split
  · exact ⟨24, _, by decide, rfl, frames_wide (by assumption)⟩
  split
  · exact ⟨25, _, by decide, rfl, frames_wide (by assumption)⟩
  split
  · exact ⟨26, _, by decide, rfl, frames_wide (by assumption)⟩
  · exact ⟨27, _, by decide, rfl, frames_wide fits⟩

theorem length_head_pos (major n : Nat) : 0 < (head major n).length := by
  unfold head
  split
  · exact Nat.one_pos
  split
  · exact Nat.succ_pos _
  split
  · exact Nat.succ_pos _
  split
  · exact Nat.succ_pos _
  · exact Nat.succ_pos _

theorem length_write_pos (i : Item) : 0 < (write i).length := by
  cases i with
  | word n => exact length_head_pos _ _
  | text s =>
    rw [write, writeText, List.length_append]
    exact Nat.add_pos_left (length_head_pos _ _) _
  | list items =>
    rw [write, List.length_append]
    exact Nat.add_pos_left (length_head_pos _ _) _
  | map entries =>
    rw [write, List.length_append]
    exact Nat.add_pos_left (length_head_pos _ _) _

theorem readItem_initial {major info : Nat} (kind : major < 7) (low : info < 32) (fuel depth : Nat) (asKey : Bool)
    (m : Memory) (bs : List UInt8) : readItem (fuel + 1) depth asKey m (initial major info :: bs) =
      (argument info bs).bind fun (a, bs) => readContent fuel depth asKey m bs major a := by
  rw [readItem_cons, initial_div (Nat.lt_succ_of_lt kind) low, initial_mod (Nat.lt_succ_of_lt kind) low,
    if_neg (Nat.ne_of_lt kind)]

theorem frames_readItem {major n fuel depth : Nat} {asKey : Bool} {m : Memory} {payload : List UInt8}
    {result : List UInt8 → Value × Memory × List UInt8} (kind : major < 7) (fits : n < UInt64.size)
    (content : Frames (fun bs => readContent fuel depth asKey m bs major (.number n)) payload result) :
    Frames (readItem (fuel + 1) depth asKey m) (head major n ++ payload) result := by
  obtain ⟨info, args, low, bytes, announced⟩ := head_eq major fits
  have empty : readItem (fuel + 1) depth asKey m [] = none := by
    rw [readItem]
    exact Nat.succ_ne_zero fuel
  rw [bytes, List.cons_append]
  refine .cons empty ?_
  simp only [readItem_initial kind low]
  exact announced.bind content

theorem frames_readText (fuel : Nat) (s : String) :
    Frames (readText fuel (.number (Utf8.ofString s).length)) (Utf8.ofString s) fun rest => (.text s, rest) := by
  have decoded : [Utf8.ofString s].mapM Utf8.decode? = some [s.toList] := by
    rw [List.mapM_cons, Utf8.ofString, Utf8.decode?_encode]
    rfl
  have text : (Value.text (String.ofList [s.toList].flatten)) = .text s := by
    rw [List.flatten_singleton, String.ofList_toList]
  constructor
  · intro rest
    simp only [readText, stringChunks, (frames_split (Utf8.ofString s)).whole rest, Option.map_some, bind,
      Option.bind_some, decoded, text, pure]
  · intro p short proper
    simp only [readText, stringChunks, (frames_split (Utf8.ofString s)).cut short proper, Option.map_none, bind,
      Option.bind_none]

theorem frames_text {fuel depth : Nat} {asKey : Bool} {m : Memory} {s : String} (closed : m.strings = none)
    (fits : (Utf8.ofString s).length < UInt64.size) :
    Frames (readItem (fuel + 1) depth asKey m) (writeText s) fun rest => (.text s, m, rest) := by
  refine frames_readItem (by decide) fits ?_
  have frames := (frames_readText fuel s).map fun found => (found.1, m, found.2)
  simp only [readContent, Memory.noted_of_closed closed]
  exact frames

/-- Items one after another, of which each is framed for all steps that are enough for it. -/
theorem frames_readItems {depth : Nat} {asKey : Bool} {m : Memory} {items : List Item} (value : Item → Value)
    (all : ∀ i ∈ items, ∀ fuel, 2 * (write i).length + 2 ≤ fuel →
      Frames (readItem fuel depth asKey m) (write i) fun rest => (value i, m, rest))
    {fuel : Nat} (enough : 2 * (items.flatMap write).length + 3 ≤ fuel) :
    Frames (readItems fuel depth asKey (some items.length) m) (items.flatMap write)
      fun rest => (items.map value, m, rest) := by
  induction items generalizing fuel with
  | nil =>
    obtain ⟨steps, rfl⟩ : ∃ steps, fuel = steps + 1 := ⟨fuel - 1, by omega⟩
    rw [List.length_nil, readItems_zero]
    exact .nothing _
  | cons i items ih =>
    obtain ⟨steps, rfl⟩ : ∃ steps, fuel = steps + 1 := ⟨fuel - 1, by omega⟩
    have positive := length_write_pos i
    rw [List.flatMap_cons, List.length_append] at enough
    rw [List.length_cons, readItems_one, List.flatMap_cons]
    refine (all i (List.mem_cons_self ..) steps (by omega)).bind ?_
    exact (ih (fun j member => all j (List.mem_cons_of_mem _ member)) (by omega)).map _

theorem frames_readEntries {depth : Nat} {asKey : Bool} {m : Memory} {entries : List (String × Item)}
    (value : Item → Value) (closed : m.strings = none)
    (keys : ∀ e ∈ entries, (Utf8.ofString e.1).length < UInt64.size)
    (all : ∀ e ∈ entries, ∀ fuel, 2 * (write e.2).length + 2 ≤ fuel →
      Frames (readItem fuel depth asKey m) (write e.2) fun rest => (value e.2, m, rest))
    {fuel : Nat} (enough : 2 * (entries.flatMap writeEntry).length + 3 ≤ fuel) :
    Frames (readEntries fuel depth asKey (some entries.length) m) (entries.flatMap writeEntry)
      fun rest => (Value.ofFields (entries.map fun e => (e.1, value e.2)), m, rest) := by
  induction entries generalizing fuel with
  | nil =>
    obtain ⟨steps, rfl⟩ : ∃ steps, fuel = steps + 1 := ⟨fuel - 1, by omega⟩
    rw [List.length_nil, readEntries_zero]
    exact .nothing _
  | cons e entries ih =>
    obtain ⟨steps, rfl⟩ : ∃ steps, fuel = steps + 2 := ⟨fuel - 2, by omega⟩
    have positive := length_write_pos e.2
    rw [List.flatMap_cons, List.length_append, writeEntry, List.length_append] at enough
    rw [List.length_cons, readEntries_one, List.flatMap_cons, writeEntry, List.append_assoc]
    refine (frames_text closed (keys e (List.mem_cons_self ..))).bind ?_
    refine (all e (List.mem_cons_self ..) (steps + 1) (by omega)).bind ?_
    exact (ih (fun f member => keys f (List.mem_cons_of_mem _ member))
      (fun f member => all f (List.mem_cons_of_mem _ member)) (by omega)).map _

theorem mapping_ofFields {fields : List (String × Value)} (distinct : (fields.map (·.1)).Nodup) :
    mapping false (Value.ofFields fields) = some (.dict (Value.ofFields fields)) := by
  have hashable : (Value.ofFields fields).all fun e => e.1.isHashable := by
    rw [List.all_eq_true]
    intro e member
    obtain ⟨f, _, rfl⟩ := List.mem_map.mp member
    exact Value.isHashable_text f.1
  rw [mapping, if_pos hashable, Value.merge_ofFields distinct]
  rfl

/-- The reading of an item takes exactly what is written of it, with all steps that are enough. -/
def Framed (depth : Nat) (m : Memory) (i : Item) : Prop :=
  ∀ fuel, 2 * (write i).length + 2 ≤ fuel →
    Frames (readItem fuel depth false m) (write i) fun rest => (i.canonical.toValue, m, rest)

theorem framed_list {depth : Nat} {m : Memory} {items : List Item} (short : items.length < UInt64.size)
    (all : ∀ i ∈ items, Framed depth m i) : Framed (depth + 1) m (.list items) := by
  intro fuel enough
  obtain ⟨steps, rfl⟩ : ∃ steps, fuel = steps + 1 := ⟨fuel - 1, by omega⟩
  have positive := length_head_pos listMajor items.length
  rw [write, writeAll_eq_flatMap] at enough ⊢
  rw [List.length_append] at enough
  refine frames_readItem (by decide) short ?_
  have frames := frames_readItems (fun i => i.canonical.toValue) all
    (show 2 * (items.flatMap write).length + 3 ≤ steps by omega)
  simp only [listMajor, readContent_list, Item.canonical_toValue_list]
  exact frames.map _

theorem framed_map {depth : Nat} {m : Memory} {entries : List (String × Item)} (closed : m.strings = none)
    (short : entries.length < UInt64.size) (distinct : (entries.map (·.1)).Nodup)
    (keys : ∀ e ∈ entries, (Utf8.ofString e.1).length < UInt64.size)
    (all : ∀ e ∈ entries, Framed depth m e.2) : Framed (depth + 1) m (.map entries) := by
  intro fuel enough
  obtain ⟨steps, rfl⟩ : ∃ steps, fuel = steps + 1 := ⟨fuel - 1, by omega⟩
  have positive := length_head_pos mapMajor (sortKeys entries).length
  have sorted := sortKeys_perm entries
  rw [write_map] at enough ⊢
  rw [List.length_append] at enough
  refine frames_readItem (by decide) (sorted.length_eq ▸ short) ?_
  have names : (((sortKeys entries).map fun e => (e.1, e.2.canonical.toValue)).map (·.1)).Nodup := by
    rw [List.map_map]
    exact (sorted.map _).nodup_iff.mpr distinct
  have frames := frames_readEntries (fun i => i.canonical.toValue) closed
    (fun e member => keys e (sorted.mem_iff.mp member)) (fun e member => all e (sorted.mem_iff.mp member))
    (show 2 * ((sortKeys entries).flatMap writeEntry).length + 3 ≤ steps by omega)
  -- Distinct keys are all kept, in the order in which they were written.
  have made (rest : List UInt8) : (mapping false (Value.ofFields
      ((sortKeys entries).map fun e => (e.1, e.2.canonical.toValue)))).map (fun v => (v, m, rest)) =
        some ((Item.map entries).canonical.toValue, m, rest) := by
    rw [mapping_ofFields names, Item.canonical_toValue_map, Option.map_some]
  simp only [mapMajor, readContent_map]
  rw [← List.append_nil ((sortKeys entries).flatMap writeEntry)]
  refine frames.bind ?_
  simp only [made]
  exact .nothing _

/-- What is read of an item is the item in canonical form. -/
theorem framed_of_fits {depth : Nat} {i : Item} (fits : i.Fits depth) {m : Memory} (closed : m.strings = none) :
    Framed depth m i := by
  induction fits with
  | word n =>
    intro fuel enough
    obtain ⟨steps, rfl⟩ : ∃ steps, fuel = steps + 1 := ⟨fuel - 1, by omega⟩
    rw [write, ← List.append_nil (head ..)]
    refine frames_readItem (by decide) n.isLt ?_
    exact .nothing _
  | text short =>
    intro fuel enough
    obtain ⟨steps, rfl⟩ : ∃ steps, fuel = steps + 1 := ⟨fuel - 1, by omega⟩
    exact frames_text closed short
  | list short _ ih => exact framed_list short ih
  | map short distinct keys _ ih => exact framed_map closed short distinct keys ih

/-- Reading gives back what was written, in canonical form, and does not look at what follows. -/
theorem read?_write_append {i : Item} (fits : i.Fits depthLimit) (rest : List UInt8) :
    read? (write i ++ rest) = some i.canonical.toValue := by
  have enough : 2 * (write i).length + 2 ≤ 2 * (write i ++ rest).length + 2 := by
    rw [List.length_append]
    omega
  rw [read?, (framed_of_fits fits rfl _ enough).whole]
  rfl

/-- What ends too early is not read. -/
theorem read?_eq_none_of_cut {i : Item} (fits : i.Fits depthLimit) {p : List UInt8} (short : p <+: write i)
    (proper : p ≠ write i) : read? p = none := by
  have enough : 2 * p.length + 2 ≤ 2 * (write i).length + 2 := by
    have shorter := short.length_le
    omega
  rw [read?_eq_readItem enough, (framed_of_fits fits rfl _ (Nat.le_refl _)).cut short proper]
  rfl

namespace Codec

theorem standard_writesCanonical : standard.WritesCanonical := fun _ => rfl

theorem standard_readsFirst : standard.ReadsFirst := fun _ rest fits => read?_write_append fits rest

theorem standard_refusesCut : standard.RefusesCut := fun _ _ fits => read?_eq_none_of_cut fits

end Codec

end Cbor
end AccountInput
