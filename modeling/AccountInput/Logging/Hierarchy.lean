namespace AccountInput
namespace Logging

/-- The name of the library's logger. -/
def rootName : String := "ledger"

/-- The name that a logger has when asked for by a name, which may be empty. -/
def loggerName (name : String) : String := if name.isEmpty then rootName else name

/-- What stands in a name before a dot at one of the first `n` places, the longest first. The place
before a dot is passed over, so that of two dots in a row only the second one counts. -/
def beginnings (name : List Char) : (n : Nat) → List (List Char)
  | 0 | 1 => []
  | n + 2 =>
    if name[n + 1]? = some '.' then name.take (n + 1) :: beginnings name n
    else beginnings name (n + 1)

/-- The logger that a logger is directly below, of the library's and others that there are: the one
with the longest beginning of its name. -/
def parent? (others : List String) (name : String) : Option String :=
  ((beginnings name.toList name.length).map String.ofList).find? fun p =>
    p == rootName || others.contains p

theorem length_lt_of_mem_beginnings {name p : List Char} {n : Nat} (member : p ∈ beginnings name n) :
    p.length < n := by
  fun_induction beginnings name n with
  | case1 => cases member
  | case2 => cases member
  | case3 n _ ih =>
    rcases List.mem_cons.mp member with rfl | member
    · exact Nat.lt_of_le_of_lt (List.length_take_le _ _) (Nat.lt_succ_self _)
    · exact Nat.lt_add_right 2 (ih member)
  | case4 n _ ih => exact Nat.lt_succ_of_lt (ih member)

theorem length_lt_of_parent? {others : List String} {name p : String}
    (found : parent? others name = some p) : p.length < name.length := by
  obtain ⟨cs, member, rfl⟩ := List.mem_map.mp (List.mem_of_find?_eq_some found)
  rw [String.length_ofList]
  exact length_lt_of_mem_beginnings member

/-- Whether a logger is the library's or below it. -/
def isOwn (others : List String) (name : String) : Bool :=
  if name = rootName then true
  else
    match _found : parent? others name with
    | some p => isOwn others p
    | none => false
termination_by name.length
decreasing_by exact length_lt_of_parent? _found

end Logging
end AccountInput
