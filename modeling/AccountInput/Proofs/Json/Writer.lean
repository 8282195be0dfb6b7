import AccountInput.Json.Writer
import AccountInput.Problem.Addition
import AccountInput.Proofs.Value.Wording

namespace AccountInput

namespace Value

mutual

/-- Whether each dictionary within a value that becomes an object has keys of the types that JSON knows. Within values
that become text there are none. -/
def hasJsonKeys : Value → Bool
  | .list vs | .tuple vs => allHaveJsonKeys vs
  | .dict es => eachHasJsonKeys es
  | _ => true

def allHaveJsonKeys : List Value → Bool
  | [] => true
  | v :: vs => hasJsonKeys v && allHaveJsonKeys vs

def eachHasJsonKeys : List (Value × Value) → Bool
  | [] => true
  | (k, v) :: es => isJsonKey (fun _ => true) k && hasJsonKeys v && eachHasJsonKeys es

end

mutual

/-- The texts that the form of a value in JSON needs. What the format lacks is written on its own. -/
def jsonWordings : Value → List (Option String)
  | .list vs | .tuple vs => allJsonWordings vs
  | .dict es => eachJsonWordings es
  | v => v.ownWordings

def allJsonWordings : List Value → List (Option String)
  | [] => []
  | v :: vs => jsonWordings v ++ allJsonWordings vs

def eachJsonWordings : List (Value × Value) → List (Option String)
  | [] => []
  | (k, v) :: es => ownWordings k ++ jsonWordings v ++ eachJsonWordings es

end

/-- Whether JSON can write all that a value holds: no integer within it has too many digits, and no
object fails to make its text. -/
def isJsonWorded (v : Value) : Bool := v.jsonWordings.all Option.isSome

end Value

namespace Json

open Value

theorem isSome_keyText (k : Value) : (keyText? k).isSome = (k.isJsonKey (fun _ => true) && k.isWorded) := by
  cases k with
  | int n => simp only [keyText?, isJsonKey, isWorded, ownWordings, wordings, all_singleton, Bool.true_and]
  | _ => rfl

theorem isSome_writeEntries_cons (k v : Value) (es : List (Value × Value)) : (writeEntries? ((k, v) :: es)).isSome =
    ((keyText? k).isSome && ((write? v).isSome && (writeEntries? es).isSome)) := by
  rw [writeEntries?]
  exact isSome_bind fun _ => isSome_bind fun _ => isSome_last _ _

mutual

/-- A value has a form in JSON if and only if its objects have keys that JSON knows and all that it holds can
be written. -/
theorem isSome_write : (v : Value) → (write? v).isSome = (v.hasJsonKeys && v.isJsonWorded)
  | .int n => by
    simp only [write?, hasJsonKeys, isJsonWorded, jsonWordings, ownWordings, wordings, all_singleton, Bool.true_and]
  | .list vs | .tuple vs => by rw [write?, Option.isSome_map, isSome_writeAll vs, hasJsonKeys, isJsonWorded, jsonWordings]
  | .dict es => by rw [write?, Option.isSome_map, isSome_writeEntries es, hasJsonKeys, isJsonWorded, jsonWordings]
  | .null | .bool _ | .float _ | .text _ | .code _ => by
    simp only [write?, hasJsonKeys, isJsonWorded, jsonWordings, ownWordings, wordings, Option.isSome_some, List.all_nil,
      Bool.true_and]
  -- what JSON lacks is written as its text, in which keys of any type may stand
  | .bytes .. | .frozenDict _ | .fp _ | .amount _ | .blockTime _ | .schedule _ | .timing _ | .foreignTiming | .symbol _
  | .envelope .. | .untimedRecord _ | .timedRecord .. | .scheduleRecord .. | .atom _ | .hashInput _ | .producer _
  | .settings .. | .plain | .kind _ | .undefined | .simple _ | .tagged .. | .set .. | .extended _ => by
    simp only [write?, hasJsonKeys, isJsonWorded, jsonWordings, Option.isSome_map, isSome_str, isWorded, Bool.true_and]

theorem isSome_writeAll : (vs : List Value) →
    (writeAll? vs).isSome = (allHaveJsonKeys vs && (allJsonWordings vs).all Option.isSome)
  | [] => by
    rw [writeAll?, allHaveJsonKeys, allJsonWordings]
    rfl
  | v :: vs => by
    have both : (writeAll? (v :: vs)).isSome = ((write? v).isSome && (writeAll? vs).isSome) := by
      rw [writeAll?]
      exact isSome_bind fun _ => isSome_last _ _
    rw [both, isSome_write v, isSome_writeAll vs, allHaveJsonKeys, allJsonWordings, List.all_append, ← isJsonWorded]
    simp only [Bool.and_assoc, Bool.and_left_comm]

theorem isSome_writeEntries : (es : List (Value × Value)) →
    (writeEntries? es).isSome = (eachHasJsonKeys es && (eachJsonWordings es).all Option.isSome)
  | [] => by
    rw [writeEntries?, eachHasJsonKeys, eachJsonWordings]
    rfl
  | (k, v) :: es => by
    rw [isSome_writeEntries_cons, isSome_keyText, isSome_write v, isSome_writeEntries es, eachHasJsonKeys,
      eachJsonWordings, List.all_append, List.all_append, ← isWorded, ← isJsonWorded]
    simp only [Bool.and_assoc, Bool.and_left_comm]

end

end Json
end AccountInput
