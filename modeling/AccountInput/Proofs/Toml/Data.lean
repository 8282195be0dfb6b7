import AccountInput.Proofs.Outcome
import AccountInput.Proofs.Value.Data
import AccountInput.Toml.Reader

namespace AccountInput
namespace Toml

/-- A change that leaves a table where it finds one. -/
def KeepsTable (f : Entries → Option Entries) : Prop :=
  ∀ es es', Value.IsTable es → f es = some es' → Value.IsTable es'

theorem keepsTable_some : KeepsTable some := by
  intro es es' table same
  cases same
  exact table

theorem keepsTable_addNew? (key : String) {v : Value} (data : v.IsData) : KeepsTable (addNew? key v) := by
  intro es es' table run
  rw [addNew?] at run
  split at run
  · cases run
  · cases run
    exact table.insert key data

theorem keepsTable_addToArray? (key : String) : KeepsTable (addToArray? key) := by
  intro es es' table run
  have empty : ∀ v ∈ [Value.dict []], v.IsData := List.forall_mem_singleton.mpr Value.IsTable.nil.isData
  rw [addToArray?] at run
  split at run
  · cases run
    exact table.insert key (.list empty)
  · rename_i vs found
    cases run
    have items := (table.isData_of_get? found).items
    exact table.insert key (.list (List.forall_mem_append.mpr ⟨items, empty⟩))
  · cases run

theorem updateLast?_isData {f : Entries → Option Entries} (keeps : KeepsTable f) {vs vs' : List Value}
    (data : ∀ v ∈ vs, v.IsData) (run : updateLast? f vs = some vs') : ∀ v ∈ vs', v.IsData := by
  induction vs using updateLast?.induct generalizing vs' with
  | case1 => cases run
  | case2 es =>
    obtain ⟨es', changed, rfl⟩ := Option.map_eq_some_iff.mp run
    have table := (data _ (List.mem_singleton.mpr rfl)).table
    exact List.forall_mem_singleton.mpr (keeps es es' table changed).isData
  | case3 v noTable =>
    rw [updateLast?] at run
    · cases run
    · exact noTable
  | case4 v vs notOne notLast ih =>
    rw [updateLast?] at run
    · obtain ⟨ws, changed, rfl⟩ := Option.map_eq_some_iff.mp run
      obtain ⟨first, others⟩ := List.forall_mem_cons.mp data
      exact List.forall_mem_cons.mpr ⟨first, ih others changed⟩
    · exact notOne
    · exact notLast

/-- A change at a path keeps the whole a table if it keeps the table at the path one. -/
theorem keepsTable_updateAt? (intoArrays : Bool) {f : Entries → Option Entries} (keeps : KeepsTable f)
    (path : List String) : KeepsTable (updateAt? intoArrays f path) := by
  induction path with
  | nil => exact keeps
  | cons k path ih =>
    intro es es' table run
    rw [updateAt?] at run
    split at run
    · obtain ⟨t, changed, rfl⟩ := Option.map_eq_some_iff.mp run
      exact table.insert k (ih _ _ .nil changed).isData
    · rename_i t found
      obtain ⟨t', changed, rfl⟩ := Option.map_eq_some_iff.mp run
      exact table.insert k (ih _ _ (table.isData_of_get? found).table changed).isData
    · rename_i vs found
      split at run
      · obtain ⟨vs', changed, rfl⟩ := Option.map_eq_some_iff.mp run
        exact table.insert k (.list (updateLast?_isData ih (table.isData_of_get? found).items changed))
      · cases run
    · cases run

theorem keepsTable_addInline? (closed : Marks) (path : List String) {v : Value} (data : v.IsData) :
    KeepsTable fun es => addInline? closed es path v := by
  intro es es' table run
  simp only [addInline?] at run
  split at run
  · cases run
  · split at run
    · exact keepsTable_updateAt? false (keepsTable_addNew? _ data) _ _ _ table run
    · cases run

theorem ok_of_orMalformed {α : Type} {x : Option α} {a : α} (run : orMalformed x = .ok a) : x = some a := by
  cases x with
  | none => cases run
  | some b =>
    cases run
    rfl

theorem isData_of_decimal? {cs rest : List Char} {v : Value} (run : decimal? cs = some (.ok v, rest)) : v.IsData := by
  simp only [decimal?, Option.bind_eq_bind, Option.bind_eq_some_iff] at run
  obtain ⟨⟨whole, after⟩, _, run⟩ := run
  split at run
  · cases run
    exact .float _
  · cases run
    exact .float _
  · split at run
    · cases run
      exact .int _
    · cases run

theorem isData_of_number {cs rest : List Char} {v : Value} (run : number cs = .ok (v, rest)) : v.IsData := by
  rw [number] at run
  split at run
  · cases run
    exact .int _
  · split at run
    · rename_i spelled
      obtain ⟨w, read, same⟩ := ok_of_map run
      cases same
      subst read
      exact isData_of_decimal? spelled
    · split at run
      · cases run
        exact .float _
      · cases run

/-- The readers of values, with one amount of fuel, hand out data alone. -/
structure ReadsData (fuel : Nat) : Prop where
  value : ∀ {room cs rest v}, readValue fuel room cs = .ok (v, rest) → v.IsData
  items : ∀ {room cs rest vs}, readItems fuel room cs = .ok (vs, rest) → ∀ v ∈ vs, v.IsData
  entries : ∀ {room closed es es' cs rest}, Value.IsTable es →
    readEntries fuel room closed es cs = .ok (es', rest) → Value.IsTable es'
  pair : ∀ {room cs rest path v}, readPair fuel room cs = .ok (path, v, rest) → v.IsData

theorem ReadsData.value_succ {fuel : Nat} (reads : ReadsData fuel) {room : Nat} {cs rest : List Char} {v : Value}
    (run : readValue (fuel + 1) room cs = .ok (v, rest)) : v.IsData := by
  rw [readValue.eq_def] at run
  simp only at run
  split at run
  · obtain ⟨_, _, run⟩ := ok_of_bind run
    cases run
    exact .text _
  · obtain ⟨_, _, run⟩ := ok_of_bind run
    cases run
    exact .text _
  · cases run
    exact .bool true
  · cases run
    exact .bool false
  · obtain ⟨_, _, run⟩ := ok_of_bind run
    obtain ⟨_, _, run⟩ := ok_of_bind run
    split at run
    · cases run
      exact .list nofun
    · obtain ⟨⟨vs, _⟩, read, run⟩ := ok_of_bind run
      cases run
      exact .list (reads.items read)
  · obtain ⟨_, _, run⟩ := ok_of_bind run
    split at run
    · cases run
      exact Value.IsTable.nil.isData
    · obtain ⟨⟨es, _⟩, read, run⟩ := ok_of_bind run
      cases run
      exact (reads.entries .nil read).isData
  · split at run
    · rename_i read spelled
      obtain ⟨⟨s, _⟩, rfl, same⟩ := ok_of_map run
      cases same
      exact .calendar (isCalendar_of_calendar? spelled)
    · exact isData_of_number run

theorem ReadsData.items_succ {fuel : Nat} (reads : ReadsData fuel) {room : Nat} {cs rest : List Char}
    {vs : List Value} (run : readItems (fuel + 1) room cs = .ok (vs, rest)) : ∀ v ∈ vs, v.IsData := by
  rw [readItems] at run
  obtain ⟨⟨first, _⟩, read, run⟩ := ok_of_bind run
  have data := reads.value read
  obtain ⟨_, _, run⟩ := ok_of_bind run
  split at run
  · cases run
    exact List.forall_mem_singleton.mpr data
  · obtain ⟨_, _, run⟩ := ok_of_bind run
    split at run
    · cases run
      exact List.forall_mem_singleton.mpr data
    · obtain ⟨⟨others, _⟩, more, run⟩ := ok_of_bind run
      cases run
      exact List.forall_mem_cons.mpr ⟨data, reads.items more⟩
  · cases run

theorem ReadsData.entries_succ {fuel : Nat} (reads : ReadsData fuel) {room : Nat} {closed : Marks}
    {es es' : Entries} {cs rest : List Char} (table : Value.IsTable es)
    (run : readEntries (fuel + 1) room closed es cs = .ok (es', rest)) : Value.IsTable es' := by
  rw [readEntries] at run
  obtain ⟨⟨path, v, _⟩, read, run⟩ := ok_of_bind run
  obtain ⟨added, changed, run⟩ := ok_of_bind run
  have data := reads.pair read
  have kept := keepsTable_addInline? closed path data es added table (ok_of_orMalformed changed)
  split at run
  · cases run
    exact kept
  · exact reads.entries kept run
  · cases run

theorem ReadsData.pair_succ {fuel : Nat} (reads : ReadsData fuel) {room : Nat} {cs rest : List Char}
    {path : List String} {v : Value} (run : readPair (fuel + 1) room cs = .ok (path, v, rest)) : v.IsData := by
  rw [readPair] at run
  obtain ⟨_, _, run⟩ := ok_of_bind run
  split at run
  · obtain ⟨⟨_, _⟩, read, run⟩ := ok_of_bind run
    cases run
    exact reads.value read
  · cases run

theorem readsData (fuel : Nat) : ReadsData fuel := by
  -- a value holds items and entries, and they hold values, so all readers go through the induction together
  induction fuel with
  | zero =>
    constructor
    · intro room cs rest v run
      cases run
    · intro room cs rest vs run
      cases run
    · intro room closed es es' cs rest table run
      cases run
    · intro room cs rest path v run
      cases run
  | succ fuel ih => exact ⟨ih.value_succ, ih.items_succ, ih.entries_succ, ih.pair_succ⟩

theorem isTable_of_add? {s s' : State} {path : List String} {v : Value} (table : Value.IsTable s.entries)
    (data : v.IsData) (run : s.add? path v = some s') : Value.IsTable s'.entries := by
  obtain ⟨key, _, run⟩ := Option.bind_eq_some_iff.mp run
  simp only [Option.bind_eq_bind] at run
  split at run
  · cases run
  · obtain ⟨es, changed, same⟩ := Option.bind_eq_some_iff.mp run
    cases same
    exact keepsTable_updateAt? true (keepsTable_addNew? key data) _ _ _ table changed

theorem isTable_of_openTable? {s s' : State} {path : List String} (table : Value.IsTable s.entries)
    (run : s.openTable? path = some s') : Value.IsTable s'.entries := by
  simp only [State.openTable?, Option.bind_eq_bind] at run
  split at run
  · cases run
  · obtain ⟨es, changed, same⟩ := Option.bind_eq_some_iff.mp run
    cases same
    exact keepsTable_updateAt? true keepsTable_some _ _ _ table changed

theorem isTable_of_openArray? {s s' : State} {path : List String} (table : Value.IsTable s.entries)
    (run : s.openArray? path = some s') : Value.IsTable s'.entries := by
  simp only [State.openArray?, Option.bind_eq_bind] at run
  split at run
  · cases run
  · obtain ⟨key, _, run⟩ := Option.bind_eq_some_iff.mp run
    obtain ⟨es, changed, same⟩ := Option.bind_eq_some_iff.mp run
    cases same
    exact keepsTable_updateAt? true (keepsTable_addToArray? key) _ _ _ table changed

/-- One statement further. -/
theorem isTable_of_readStatement {fuel : Nat} {s s' : State} {cs rest : List Char}
    (table : Value.IsTable s.entries) (run : readStatement fuel s cs = .ok (s', rest)) :
    Value.IsTable s'.entries := by
  have settled : Value.IsTable s.settle.entries := table
  rw [readStatement.eq_def] at run
  split at run
  · cases run
    exact table
  · cases run
    exact table
  · cases run
    exact table
  · obtain ⟨_, _, run⟩ := ok_of_bind run
    obtain ⟨opened, changed, run⟩ := ok_of_bind run
    split at run
    · cases run
      exact isTable_of_openArray? settled (ok_of_orMalformed changed)
    · cases run
  · obtain ⟨_, _, run⟩ := ok_of_bind run
    obtain ⟨opened, changed, run⟩ := ok_of_bind run
    split at run
    · cases run
      exact isTable_of_openTable? settled (ok_of_orMalformed changed)
    · cases run
  · split at run
    · obtain ⟨⟨path, v, _⟩, read, run⟩ := ok_of_bind run
      obtain ⟨added, changed, run⟩ := ok_of_bind run
      cases run
      exact isTable_of_add? table ((readsData fuel).pair read) (ok_of_orMalformed changed)
    · cases run

theorem isTable_of_readLines {fuel : Nat} {s s' : State} {cs : List Char} (table : Value.IsTable s.entries)
    (run : readLines fuel s cs = .ok s') : Value.IsTable s'.entries := by
  induction fuel generalizing s cs with
  | zero =>
    cases run
    exact table
  | succ fuel ih =>
    rw [readLines] at run
    obtain ⟨⟨t, _⟩, read, run⟩ := ok_of_bind run
    have kept := isTable_of_readStatement table read
    obtain ⟨_, _, run⟩ := ok_of_bind run
    split at run
    · cases run
      exact kept
    · exact ih kept run
    · cases run

theorem isTable_of_read {cs : List Char} {es : Entries} (run : read cs = .ok es) : Value.IsTable es := by
  obtain ⟨s, lines, rfl⟩ := ok_of_map run
  have start : Value.IsTable State.start.entries := .nil
  exact isTable_of_readLines start lines

end Toml
end AccountInput
