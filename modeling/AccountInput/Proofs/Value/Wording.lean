import AccountInput.Proofs.Outcome
import AccountInput.Value.Text

namespace AccountInput

namespace Atom

/-- The text of the width of a packed value, which is not checked before it is appended. -/
def wordings : Atom → List (Option String)
  | .field _ => []
  | .packed _ bits => [Decimal.text? bits]

end Atom

namespace Standard

def wordings : Standard → List (Option String)
  | .ratio num den => [Decimal.text? num, Decimal.text? den]
  | _ => []

end Standard

namespace Value

mutual

/-- The texts of the wordings and of the objects that a value holds at any depth, those wordings aside
that the type of the value bounds. There is none for an integer of too many digits, nor for an object
that fails to make one. -/
def wordings : Value → List (Option String)
  | .int n => [Decimal.text? n]
  | .list vs | .tuple vs | .set _ vs => allWordings vs
  | .dict es | .frozenDict es => eachWordings es
  | .envelope content version => wordings content ++ wordings version
  | .timedRecord _ data => wordings data
  | .scheduleRecord _ a b c d e => wordings a ++ wordings b ++ wordings c ++ wordings d ++ wordings e
  | .atom a => a.wordings
  | .hashInput h => h.atoms.flatMap Atom.wordings
  | .settings level json version => wordings level ++ wordings json ++ wordings version
  | .tagged _ content => wordings content
  | .extended (.standard s) => s.wordings
  | .extended (.object o) => [o.inside]
  | _ => []

def allWordings : List Value → List (Option String)
  | [] => []
  | v :: vs => wordings v ++ allWordings vs

def eachWordings : List (Value × Value) → List (Option String)
  | [] => []
  | (k, v) :: es => wordings k ++ wordings v ++ eachWordings es

end

/-- The texts that a value needs to be written on its own. -/
def ownWordings : Value → List (Option String)
  | .extended (.object o) => [o.own]
  | v => v.wordings

/-- Whether a value can be written on its own: no integer within it has too many digits, and no object
fails to make its text. -/
def isWorded (v : Value) : Bool := v.ownWordings.all Option.isSome

theorem all_singleton (t : Option String) : [t].all Option.isSome = t.isSome := by
  rw [List.all_cons, List.all_nil, Bool.and_true]

theorem isSome_atomText (a : Atom) : (atomText? a).isSome = a.wordings.all Option.isSome := by
  cases a with
  | field v => rfl
  | packed v bits => rw [atomText?, Option.isSome_map, Atom.wordings, all_singleton]

theorem isSome_hashInputText (h : HashInput) :
    (hashInputText? h).isSome = (h.atoms.flatMap Atom.wordings).all Option.isSome := by
  rw [hashInputText?, Option.isSome_map, isSome_mapM, List.all_flatMap]
  simp only [isSome_atomText]

theorem isSome_standardRepr (s : Standard) : s.repr?.isSome = s.wordings.all Option.isSome := by
  cases s with
  | ratio num den =>
    rw [Standard.repr?, Standard.wordings, List.all_cons, all_singleton]
    exact isSome_bind fun n => isSome_last _ _
  | _ => rfl

/-- Both texts of a value of these types need the same. -/
theorem isSome_standardText (s : Standard) : s.str?.isSome = s.wordings.all Option.isSome := by
  cases s with
  | ratio num den =>
    rw [Standard.str?, Standard.wordings, List.all_cons, all_singleton]
    exact isSome_bind fun n => isSome_last _ _
  | _ => rfl

mutual

theorem isSome_repr : (v : Value) → v.repr?.isSome = v.wordings.all Option.isSome
  | .int n => by rw [repr?, wordings, all_singleton]
  | .list vs => by rw [repr?, wordings, Option.isSome_map, isSome_reprAll vs]
  | .tuple vs => by
    rw [wordings, ← isSome_reprAll vs]
    -- a tuple of one item ends with a comma
    match vs with
    | [] => simp only [repr?, Option.isSome_map]
    | [v] =>
      rw [repr?, Option.isSome_map, reprAll?, reprAll?]
      exact (isSome_last _ _).symm
    | v :: w :: vs => simp only [repr?, Option.isSome_map]
  | .set frozen vs => by
    rw [wordings, ← isSome_reprAll vs]
    match frozen, vs with
    | false, [] => simp only [repr?, reprAll?, Option.isSome_some]
    | true, [] => simp only [repr?, reprAll?, Option.isSome_some]
    | false, v :: vs => simp only [repr?, Option.isSome_map]
    | true, v :: vs => simp only [repr?, Option.isSome_map]
  | .dict es => by rw [repr?, wordings, Option.isSome_map, isSome_reprEach es]
  | .frozenDict es => by rw [repr?, wordings, Option.isSome_map, isSome_reprEach es]
  | .envelope content version => by
    rw [repr?, wordings, List.all_append, ← isSome_repr content, ← isSome_repr version]
    exact isSome_bind fun _ => isSome_last _ _
  | .timedRecord _ data => by rw [repr?, wordings, Option.isSome_map, isSome_repr data]
  | .scheduleRecord _ a b c d e => by
    simp only [repr?, wordings, List.all_append, ← isSome_repr a, ← isSome_repr b, ← isSome_repr c, ← isSome_repr d,
      ← isSome_repr e, Bool.and_assoc]
    exact isSome_bind fun _ => isSome_bind fun _ => isSome_bind fun _ => isSome_bind fun _ => isSome_last _ _
  | .settings level json version => by
    simp only [repr?, wordings, List.all_append, ← isSome_repr level, ← isSome_repr json, ← isSome_repr version,
      Bool.and_assoc]
    exact isSome_bind fun _ => isSome_bind fun _ => isSome_last _ _
  | .tagged _ content => by rw [repr?, wordings, Option.isSome_map, isSome_repr content]
  | .atom a => by rw [repr?, wordings, isSome_atomText]
  | .hashInput h => by rw [repr?, wordings, isSome_hashInputText]
  | .extended (.standard s) => by rw [repr?, wordings, Extended.repr?, isSome_standardRepr]
  | .extended (.object o) => by rw [repr?, wordings, Extended.repr?, all_singleton]
  | .null | .bool _ | .float _ | .text _ | .bytes .fixed _ | .bytes .growable _ | .bytes .view _ | .code _ | .fp _
  | .amount _ | .blockTime _ | .schedule _ | .timing _ | .foreignTiming | .symbol _ | .untimedRecord _ | .producer _
  | .plain | .kind _ | .undefined | .simple _ => by
    simp only [repr?, wordings, Option.isSome_some, List.all_nil]

theorem isSome_reprAll : (vs : List Value) → (reprAll? vs).isSome = (allWordings vs).all Option.isSome
  | [] => by
    rw [reprAll?, allWordings]
    rfl
  | v :: vs => by
    rw [reprAll?, allWordings, List.all_append, ← isSome_repr v, ← isSome_reprAll vs]
    exact isSome_bind fun _ => isSome_last _ _

theorem isSome_reprEach : (es : List (Value × Value)) → (reprEach? es).isSome = (eachWordings es).all Option.isSome
  | [] => by
    rw [reprEach?, eachWordings]
    rfl
  | (k, v) :: es => by
    rw [reprEach?, eachWordings, List.all_append, List.all_append, ← isSome_repr k, ← isSome_repr v,
      ← isSome_reprEach es, Bool.and_assoc]
    exact isSome_bind fun _ => isSome_bind fun _ => isSome_last _ _

end

theorem isSome_str (v : Value) : v.str?.isSome = v.isWorded := by
  unfold isWorded ownWordings
  split
  · rw [str?, Extended.str?, all_singleton]
  · rename_i single
    unfold str?
    split
    · rfl
    · rfl
    · rename_i e
      cases e with
      | standard s => rw [Extended.str?, isSome_standardText, wordings]
      | object o => exact absurd rfl (single o)
    · exact isSome_repr v

end Value
end AccountInput
