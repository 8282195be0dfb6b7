import AccountInput.Proofs.Value.Equal
import Mathlib.Data.List.Nodup
import Mathlib.Data.List.Perm.Subperm

namespace AccountInput
namespace Value

theorem sameKey_text (s t : String) : sameKey (.text s) (.text t) = (s == t) := by
  simp only [sameKey, agrees, leafEqual]

theorem equal_text (s t : String) : (text s).equal (.text t) = (s == t) := by
  simp only [equal, agrees, leafEqual]

/-- A name that no problem code is written as. Those are texts of their own, so only such a name is
the key of one text alone. -/
def PlainName (name : String) : Prop := ∀ c : ProblemCode, name ≠ c.text

theorem sameKey_text_iff {name : String} (plain : PlainName name) (k : Value) :
    sameKey (.text name) k = true ↔ k = .text name := by
  cases k
  case text t =>
    rw [sameKey_text, beq_iff_eq, text.injEq]
    exact eq_comm
  case code c => simp only [sameKey, agrees, leafEqual, beq_iff_eq, plain c, reduceCtorEq]
  all_goals simp [sameKey, agrees, leafEqual, numeric?, int?]

theorem equal_text_iff {name : String} (plain : PlainName name) (v : Value) :
    v.equal (.text name) = true ↔ v = .text name := by
  cases v
  case text t => rw [equal_text, beq_iff_eq, text.injEq]
  case code c => simp only [equal, agrees, leafEqual, beq_iff_eq, plain c, reduceCtorEq]
  all_goals simp [equal, agrees, leafEqual, numeric?, int?]

theorem isHashable_text (s : String) : isHashable (.text s) = true := rfl

theorem insert_of_new {es : List (Value × Value)} {k : Value} (v : Value)
    (new : ∀ e ∈ es, sameKey k e.1 = false) : insert es k v = es ++ [(k, v)] := by
  induction es with
  | nil => rfl
  | cons e es ih =>
    obtain ⟨l, w⟩ := e
    have other : sameKey k l = false := new (l, w) (List.mem_cons_self ..)
    rw [insert, other, ih fun e member => new e (List.mem_cons_of_mem _ member)]
    rfl

theorem merge_of_distinct {es others : List (Value × Value)}
    (distinct : (es ++ others).Pairwise fun a b => sameKey b.1 a.1 = false) : merge es others = es ++ others := by
  induction others generalizing es with
  | nil => exact (List.append_nil es).symm
  | cons e others ih =>
    have new : ∀ f ∈ es, sameKey e.1 f.1 = false := fun f member =>
      (List.pairwise_append.mp distinct).2.2 f member e (List.mem_cons_self ..)
    rw [List.append_cons] at distinct
    rw [merge, List.foldl_cons, insert_of_new e.2 new]
    exact (ih distinct).trans (List.append_cons es e others).symm

theorem sameKey_ofFields {fields : List (String × Value)} (distinct : (fields.map (·.1)).Nodup) :
    (ofFields fields).Pairwise fun a b => sameKey b.1 a.1 = false := by
  rw [ofFields, List.pairwise_map]
  refine (List.pairwise_map.mp distinct).imp fun {a b} different => ?_
  rw [sameKey_text, beq_eq_false_iff_ne]
  exact Ne.symm different

/-- Fields as entries, with distinct names, are a map as they stand. -/
theorem merge_ofFields {fields : List (String × Value)} (distinct : (fields.map (·.1)).Nodup) :
    merge [] (ofFields fields) = ofFields fields :=
  merge_of_distinct (sameKey_ofFields distinct)

theorem get?_ofFields_cons (name : String) (v : Value) (fields : List (String × Value)) :
    get? (ofFields ((name, v) :: fields)) name = some v := by
  simp only [get?, lookup, ofFields, List.map_cons, List.find?_cons, sameKey_text, beq_self_eq_true, Option.map_some]

theorem mem_of_get? {es : List (Value × Value)} {name : String} {v : Value}
    (plain : PlainName name) (found : get? es name = some v) : (.text name, v) ∈ es := by
  obtain ⟨e, first, rfl⟩ := Option.map_eq_some_iff.mp found
  have key := List.find?_some first
  rw [← (sameKey_text_iff plain e.1).mp key]
  exact List.mem_of_find?_eq_some first

/-- In whatever order fields stand, each is found under its name. -/
theorem get?_of_perm {es : List (Value × Value)} {fields : List (String × Value)} {name : String} {v : Value}
    (perm : es.Perm (ofFields fields)) (distinct : (fields.map (·.1)).Nodup) (member : (name, v) ∈ fields) :
    get? es name = some v := by
  have entry : (.text name, v) ∈ es := perm.mem_iff.mpr (List.mem_map.mpr ⟨(name, v), member, rfl⟩)
  cases first : es.find? fun e => sameKey (.text name) e.1 with
  | none =>
    have unequal := List.find?_eq_none.mp first _ entry
    simp only [sameKey_text, beq_self_eq_true, not_true] at unequal
  | some e =>
    obtain ⟨⟨other, w⟩, field, rfl⟩ := List.mem_map.mp (perm.mem_iff.mp (List.mem_of_find?_eq_some first))
    have same : name = other := by
      have key := List.find?_some first
      simpa only [sameKey_text, beq_iff_eq] using key
    subst same
    have value : w = v := congrArg Prod.snd (List.inj_on_of_nodup_map distinct field member rfl)
    rw [get?, lookup, first, ← value]
    rfl

theorem perm_of_get? {es : List (Value × Value)} {fields : List (String × Value)}
    (plain : ∀ f ∈ fields, PlainName f.1) (distinct : (fields.map (·.1)).Nodup)
    (found : ∀ f ∈ fields, get? es f.1 = some f.2) (length : es.length ≤ fields.length) :
    es.Perm (ofFields fields) := by
  have nodup : (ofFields fields).Nodup := by
    refine List.Nodup.map_on ?_ (List.Nodup.of_map _ distinct)
    rintro ⟨a, v⟩ _ ⟨b, w⟩ _ same
    cases same
    rfl
  have subset : ofFields fields ⊆ es := by
    intro e member
    obtain ⟨f, field, rfl⟩ := List.mem_map.mp member
    exact mem_of_get? (plain f field) (found f field)
  refine ((List.subperm_of_subset nodup subset).perm_of_length_le ?_).symm
  rw [ofFields, List.length_map]
  exact length

end Value
end AccountInput
