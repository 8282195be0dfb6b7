import AccountInput.Json.Reader
import AccountInput.Proofs.Outcome
import AccountInput.Proofs.Value.Data

namespace AccountInput
namespace Json

def Frame.HoldsData : Frame → Prop
  | .list items => ∀ v ∈ items, v.IsData
  | .object members _ => Value.IsTable members

def Expected.HoldsData : Expected → Prop
  | .value _ => True
  | .name members _ | .colon members _ => Value.IsTable members
  | .after v => v.IsData

/-- A reading that holds data alone. -/
structure State.HoldsData (s : State) : Prop where
  expected : s.expected.HoldsData
  stack : ∀ f ∈ s.stack, f.HoldsData

theorem State.HoldsData.deeper {s s' : State} {stack : List Frame} (holds : s.HoldsData)
    (run : deeper stack s = .ok s') : s'.HoldsData := by
  unfold Json.deeper at run
  split at run
  · cases run
    exact holds
  · cases run

theorem readValue_holdsData {orClose : Bool} {stack : List Frame} {t : Token} {s : State}
    (held : ∀ f ∈ stack, f.HoldsData) (run : readValue orClose stack t = .ok s) : s.HoldsData := by
  have whole {v : Value} (data : v.IsData) : (State.finish v stack).HoldsData := ⟨data, held⟩
  cases t with
  | openList =>
    have opened : (State.mk (.value true) (.list [] :: stack)).HoldsData :=
      ⟨trivial, List.forall_mem_cons.mpr ⟨nofun, held⟩⟩
    exact opened.deeper run
  | openObject =>
    have opened : (State.mk (.name [] true) stack).HoldsData := ⟨.nil, held⟩
    exact opened.deeper run
  | closeList =>
    simp only [readValue] at run
    split at run
    · rename_i items outer
      obtain ⟨first, others⟩ := List.forall_mem_cons.mp held
      -- an open list holds its items the last one first
      cases run
      exact ⟨.list fun v member => first v (List.mem_reverse.mp member), others⟩
    · cases run
  | text s => cases run; exact whole (.text s)
  | int n => cases run; exact whole (.int n)
  | float x => cases run; exact whole (.float x)
  | null => cases run; exact whole .null
  | bool b => cases run; exact whole (.bool b)
  | closeObject => cases run
  | comma => cases run
  | colon => cases run
  | longInt => cases run
  | bad => cases run

theorem readAfter_holdsData {v : Value} {stack : List Frame} {t : Token} {s : State} (data : v.IsData)
    (held : ∀ f ∈ stack, f.HoldsData) (run : readAfter v stack t = .ok s) : s.HoldsData := by
  unfold readAfter at run
  split at run
  · cases run
    obtain ⟨items, others⟩ := List.forall_mem_cons.mp held
    exact ⟨trivial, List.forall_mem_cons.mpr ⟨List.forall_mem_cons.mpr ⟨data, items⟩, others⟩⟩
  · cases run
    obtain ⟨items, others⟩ := List.forall_mem_cons.mp held
    have all := List.forall_mem_cons.mpr ⟨data, items⟩
    exact ⟨.list fun v member => all v (List.mem_reverse.mp member), others⟩
  · cases run
    obtain ⟨members, others⟩ := List.forall_mem_cons.mp held
    exact ⟨members.insert _ data, others⟩
  · cases run
    obtain ⟨members, others⟩ := List.forall_mem_cons.mp held
    exact ⟨(members.insert _ data).isData, others⟩
  · cases run

theorem step_holdsData {s s' : State} {t : Token} (holds : s.HoldsData) (run : step s t = .ok s') :
    s'.HoldsData := by
  obtain ⟨expected, stack⟩ := s
  obtain ⟨due, held⟩ := holds
  cases expected with
  | value orClose => exact readValue_holdsData held run
  | name members orClose =>
    simp only [step] at run
    split at run
    · cases run
      exact ⟨due, held⟩
    · split at run
      · cases run
        exact ⟨due.isData, held⟩
      · cases run
    · cases run
  | colon members name =>
    simp only [step] at run
    split at run
    · cases run
      exact ⟨trivial, List.forall_mem_cons.mpr ⟨due, held⟩⟩
    · cases run
  | after v => exact readAfter_holdsData due held run

theorem foldlM_step_holdsData {ts : List Token} {s s' : State} (holds : s.HoldsData)
    (run : ts.foldlM step s = .ok s') : s'.HoldsData := by
  induction ts generalizing s with
  | nil =>
    cases run
    exact holds
  | cons t ts ih =>
    obtain ⟨next, first, rest⟩ := ok_of_bind run
    exact ih (step_holdsData holds first) rest

theorem isData_of_read {cs : List Char} {v : Value} (run : read cs = .ok v) : v.IsData := by
  obtain ⟨s, steps, last⟩ := ok_of_bind run
  have start : (State.mk (.value false) []).HoldsData := ⟨trivial, nofun⟩
  have holds := foldlM_step_holdsData start steps
  split at last
  · cases last
    exact holds.expected
  · cases last

end Json
end AccountInput
