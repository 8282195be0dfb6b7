import AccountInput.Logging.Handler
import Mathlib.Data.List.Infix

namespace AccountInput
namespace Logging

variable {others : List String} {name p : List Char} {n m : Nat}

theorem isOwn_rootName (others : List String) : isOwn others rootName = true := by rw [isOwn, if_pos rfl]

/-- Being below the library's logger goes from a logger to those directly below it. -/
theorem isOwn_of_parent {child parent : String} (found : parent? others child = some parent)
    (own : isOwn others parent = true) : isOwn others child = true := by
  rw [isOwn]
  split
  · rfl
  · split
    · rename_i p same
      exact Option.some.inj (found.symm.trans same) ▸ own
    · rename_i none
      cases found.symm.trans none

theorem eq_take_of_mem_beginnings (member : p ∈ beginnings name n) :
    ∃ k, p = name.take (k + 1) ∧ name[k + 1]? = some '.' := by
  fun_induction beginnings name n with
  | case1 => cases member
  | case2 => cases member
  | case3 n dot ih =>
    rcases List.mem_cons.mp member with rfl | member
    · exact ⟨n, rfl, dot⟩
    · exact ih member
  | case4 n _ ih => exact ih member

/-- A name is cut before each dot that no other dot follows. -/
theorem take_mem_beginnings (dot : name[m + 1]? = some '.') (last : name[m + 2]? ≠ some '.') (within : m + 1 < n) :
    name.take (m + 1) ∈ beginnings name n := by
  fun_induction beginnings name n with
  | case1 => omega
  | case2 => omega
  | case3 n cut ih =>
    by_cases same : m = n
    · exact same ▸ List.mem_cons_self
    · have apart : m + 1 ≠ n := by
        rintro rfl
        exact last cut
      exact List.mem_cons_of_mem _ (ih (by omega))
  | case4 n uncut ih =>
    have other : m ≠ n := fun same => uncut (same ▸ dot)
    exact ih (by omega)

/-- A logger whose name is cut after that of the library has a logger that it is directly below. -/
theorem exists_parent (others : List String) (cut : rootName.toList ∈ beginnings name name.length) :
    ∃ k, parent? others (String.ofList name) = some (String.ofList (name.take (k + 1))) ∧ name[k + 1]? = some '.' := by
  have there : (parent? others (String.ofList name)).isSome = true := by
    rw [parent?, String.toList_ofList, String.length_ofList, List.find?_isSome]
    refine ⟨rootName, List.mem_map.mpr ⟨_, cut, String.ofList_toList⟩, ?_⟩
    rw [beq_self_eq_true, Bool.true_or]
  obtain ⟨p, found⟩ := Option.isSome_iff_exists.mp there
  obtain ⟨cs, member, rfl⟩ := List.mem_map.mp (List.mem_of_find?_eq_some found)
  rw [String.toList_ofList, String.length_ofList] at member
  obtain ⟨k, rfl, dot⟩ := eq_take_of_mem_beginnings member
  exact ⟨k, found, dot⟩

/-- A name of parts that are joined by single dots is below the library's logger if the first part is the name of that,
whatever other loggers there are. -/
theorem isOwn_of_parts (others : List String) (rest : List Char) (single : ¬['.', '.'] <:+: '.' :: rest) :
    isOwn others (String.ofList (rootName.toList ++ '.' :: rest)) = true := by
  induction len : rest.length using Nat.strong_induction_on generalizing rest with
  | _ size ih =>
    have length : (rootName.toList ++ '.' :: rest).length = size + 7 := by
      rw [List.length_append, List.length_cons, len]
      exact Nat.add_comm 6 (size + 1)
    have cut : (rootName.toList ++ '.' :: rest).take (5 + 1) ∈
        beginnings (rootName.toList ++ '.' :: rest) (rootName.toList ++ '.' :: rest).length := by
      refine take_mem_beginnings rfl (fun twice => single ?_) ?_
      · cases rest with
        | nil => cases twice
        | cons c rest =>
          cases Option.some.inj twice
          exact ⟨[], rest, rfl⟩
      · omega
    obtain ⟨k, found, dot⟩ := exists_parent others cut
    refine isOwn_of_parent found ?_
    -- the dot stands after the name of the library's logger, or further on
    rcases Nat.lt_trichotomy (k + 1) 6 with early | same | late
    · have letters : ∀ k < 6, rootName.toList[k]? ≠ some '.' := by decide
      rw [List.getElem?_append_left early] at dot
      exact absurd dot (letters (k + 1) early)
    · rw [same]
      exact isOwn_rootName others
    · obtain ⟨j, rfl⟩ : ∃ j, k = j + 6 := ⟨k - 6, by omega⟩
      have inside : j + 7 < size + 7 := length ▸ (List.getElem?_eq_some_iff.mp dot).1
      have prefixed : '.' :: rest.take j <+: '.' :: rest := List.prefix_cons_inj '.' |>.mpr (List.take_prefix j rest)
      refine ih (rest.take j).length ?_ (rest.take j) (fun twice => single (twice.trans prefixed.isInfix)) rfl
      rw [List.length_take]
      omega

/-- What stands in a name before two dots counts only if the logger is there that takes in the first of them. -/
example : isOwn start.loggers "ledger..x" = false ∧ isOwn (start.getLogger "ledger.").loggers "ledger..x" = true := by
  have apart : parent? [] "ledger..x" = none := by decide
  have first : parent? ["ledger."] "ledger..x" = some "ledger." := by decide
  have second : parent? ["ledger."] "ledger." = some rootName := by decide
  constructor
  · rw [isOwn, if_neg (by decide)]
    split
    · rename_i found
      cases apart.symm.trans found
    · rfl
  · exact isOwn_of_parent first (isOwn_of_parent second (isOwn_rootName _))

end Logging
end AccountInput
