import AccountInput.Cbor.Writer
import AccountInput.Proofs.Value.Given

namespace AccountInput
namespace Cbor

/-- The bytes of an entry. -/
def writeEntry (e : String × Item) : List UInt8 := writeText e.1 ++ write e.2

theorem writeAll_eq_flatMap (items : List Item) : writeAll items = items.flatMap write := by
  induction items with
  | nil => rfl
  | cons i items ih => exact congrArg (write i ++ ·) ih

theorem writeEntries_eq_map (entries : List (String × Item)) :
    writeEntries entries = entries.map fun e => (writeText e.1, write e.2) := by
  induction entries with
  | nil => rfl
  | cons e entries ih => exact congrArg (List.cons (writeText e.1, write e.2)) ih

theorem sortKeys_canonical (entries : List (String × Item)) :
    sortKeys (entries.map fun e => (e.1, e.2.canonical)) =
      (sortKeys entries).map fun e => (e.1, e.2.canonical) := by
  rw [sortKeys, sortKeys, List.map_mergeSort]
  exact fun _ _ _ _ => rfl

theorem sortKeys_perm (entries : List (String × Item)) : (sortKeys entries).Perm entries :=
  List.mergeSort_perm ..

namespace Item

theorem allCanonical_eq_map (items : List Item) : allCanonical items = items.map canonical := by
  induction items with
  | nil => rfl
  | cons i items ih => exact congrArg (List.cons i.canonical) ih

theorem entriesCanonical_eq_map (entries : List (String × Item)) :
    entriesCanonical entries = entries.map fun e => (e.1, e.2.canonical) := by
  induction entries with
  | nil => rfl
  | cons e entries ih => exact congrArg (List.cons (e.1, e.2.canonical)) ih

theorem allToValue_eq_map (items : List Item) : allToValue items = items.map toValue := by
  induction items with
  | nil => rfl
  | cons i items ih => exact congrArg (List.cons i.toValue) ih

theorem entriesToValue_eq_ofFields (entries : List (String × Item)) :
    entriesToValue entries = Value.ofFields (entries.map fun e => (e.1, e.2.toValue)) := by
  induction entries with
  | nil => rfl
  | cons e entries ih => exact congrArg (List.cons (Value.text e.1, e.2.toValue)) ih

theorem toValue_list (items : List Item) : (Item.list items).toValue = .list (items.map toValue) :=
  congrArg Value.list (allToValue_eq_map items)

theorem toValue_map (entries : List (String × Item)) :
    (Item.map entries).toValue = .dict (Value.ofFields (entries.map fun e => (e.1, e.2.toValue))) :=
  congrArg Value.dict (entriesToValue_eq_ofFields entries)

theorem canonical_list (items : List Item) : (Item.list items).canonical = .list (items.map canonical) :=
  congrArg Item.list (allCanonical_eq_map items)

theorem canonical_map (entries : List (String × Item)) :
    (Item.map entries).canonical = .map (sortKeys (entries.map fun e => (e.1, e.2.canonical))) :=
  congrArg (Item.map <| sortKeys ·) (entriesCanonical_eq_map entries)

theorem canonical_toValue_list (items : List Item) :
    (Item.list items).canonical.toValue = .list (items.map fun i => i.canonical.toValue) := by
  rw [canonical_list, toValue_list, List.map_map]
  rfl

theorem canonical_toValue_map (entries : List (String × Item)) : (Item.map entries).canonical.toValue =
    .dict (Value.ofFields ((sortKeys entries).map fun e => (e.1, e.2.canonical.toValue))) := by
  rw [canonical_map, toValue_map, sortKeys_canonical, List.map_map]
  rfl

mutual

/-- Nothing but the order of entries changes. -/
theorem toValue_givenBy_canonical : (i : Item) → i.toValue.GivenBy i.canonical.toValue
  | .word _ => Value.givenBy_int_iff.mpr rfl
  | .text _ => Value.givenBy_text_iff.mpr rfl
  | .list items => by
    rw [canonical_toValue_list, toValue_list, Value.givenBy_list_iff]
    exact ⟨_, rfl, allToValue_givenBy_canonical items⟩
  | .map entries => by
    rw [canonical_toValue_map, toValue_map]
    exact ⟨_, _, rfl, ((sortKeys_perm entries).map _).map _,
      Value.eachGivenBy_ofFields_iff.mpr ⟨_, rfl, entriesToValue_givenBy_canonical entries⟩⟩

theorem allToValue_givenBy_canonical : (items : List Item) →
    List.Forall₂ Value.GivenBy (items.map toValue) (items.map fun i => i.canonical.toValue)
  | [] => .nil
  | i :: items => .cons (toValue_givenBy_canonical i) (allToValue_givenBy_canonical items)

theorem entriesToValue_givenBy_canonical : (entries : List (String × Item)) → Value.FieldsGivenBy
    (entries.map fun e => (e.1, e.2.toValue)) (entries.map fun e => (e.1, e.2.canonical.toValue))
  | [] => .nil
  | (_, i) :: entries => .cons ⟨rfl, toValue_givenBy_canonical i⟩ (entriesToValue_givenBy_canonical entries)

end

theorem Fits.mono {depth deeper : Nat} {i : Item} (fits : i.Fits depth) (le : depth ≤ deeper) : i.Fits deeper := by
  induction fits generalizing deeper with
  | word n => exact .word n
  | text short => exact .text short
  | list short _ ih =>
    obtain ⟨deeper, rfl⟩ : ∃ d, deeper = d + 1 := ⟨deeper - 1, by omega⟩
    exact .list short fun i member => ih i member (Nat.le_of_succ_le_succ le)
  | map short distinct keys _ ih =>
    obtain ⟨deeper, rfl⟩ : ∃ d, deeper = d + 1 := ⟨deeper - 1, by omega⟩
    exact .map short distinct keys fun e member => ih e member (Nat.le_of_succ_le_succ le)

theorem Fits.keysDistinct_canonical {depth : Nat} {i : Item} (fits : i.Fits depth) :
    i.canonical.toValue.keysDistinct = true := by
  induction fits with
  | word n => rfl
  | text short => rfl
  | list short _ ih =>
    rw [canonical_toValue_list, Value.keysDistinct_list, Value.allKeysDistinct_iff]
    intro v member
    obtain ⟨i, inside, rfl⟩ := List.mem_map.mp member
    exact ih i inside
  | @map depth entries short distinct keys _ ih =>
    have names : (((sortKeys entries).map fun e => (e.1, e.2.canonical.toValue)).map (·.1)).Nodup := by
      rw [List.map_map]
      exact ((sortKeys_perm entries).map _).nodup_iff.mpr distinct
    rw [canonical_toValue_map]
    refine Value.keysDistinct_ofFields names fun f member => ?_
    obtain ⟨e, inside, rfl⟩ := List.mem_map.mp member
    exact ih e ((sortKeys_perm entries).mem_iff.mp inside)

end Item

/-- Values are written under their keys, so sorting what is written is sorting by the keys. -/
theorem sortEntries_eq_map (entries : List (String × Item)) :
    sortEntries (entries.map fun e => (writeText e.1, write e.2)) =
      (sortKeys entries).map fun e => (writeText e.1, write e.2) := by
  rw [sortEntries, sortKeys, List.map_mergeSort]
  exact fun _ _ _ _ => rfl

theorem write_map (entries : List (String × Item)) :
    write (.map entries) = head mapMajor (sortKeys entries).length ++ (sortKeys entries).flatMap writeEntry := by
  change head mapMajor _ ++ (sortEntries (writeEntries entries)).flatMap _ = _
  rw [writeEntries_eq_map, sortEntries_eq_map, List.flatMap_map, (sortKeys_perm entries).length_eq]
  rfl

end Cbor
end AccountInput
