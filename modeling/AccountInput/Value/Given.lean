import AccountInput.Value.Equal

namespace AccountInput
namespace Value

mutual

def GivenBy : Value → Value → Prop
  | .list xs, w => ∃ ys, w.items? = some ys ∧ AllGivenBy xs ys
  | .dict es, w => ∃ fs gs, w.entries? = some fs ∧ fs.Perm gs ∧ EachGivenBy es gs
  | v, w => w = v

def AllGivenBy : List Value → List Value → Prop
  | [], [] => True
  | x :: xs, y :: ys => x.GivenBy y ∧ AllGivenBy xs ys
  | _, _ => False

def EachGivenBy : List (Value × Value) → List (Value × Value) → Prop
  | [], [] => True
  | (k, v) :: es, (l, w) :: fs => l = k ∧ v.GivenBy w ∧ EachGivenBy es fs
  | _, _ => False

end

/-- Whether no key of entries is the same as an earlier one. -/
def distinctKeys (es : List (Value × Value)) : Bool :=
  decide (es.Pairwise fun a b => sameKey b.1 a.1 = false)

mutual

/-- Whether all dictionaries in a value have distinct keys, as those have that a program can hold. -/
def keysDistinct : Value → Bool
  | .list xs | .tuple xs | .set _ xs => allKeysDistinct xs
  | .dict es | .frozenDict es => distinctKeys es && eachKeysDistinct es
  | .envelope content version => keysDistinct content && keysDistinct version
  | .timedRecord _ data => keysDistinct data
  | .scheduleRecord _ a b c d e =>
    keysDistinct a && keysDistinct b && keysDistinct c && keysDistinct d && keysDistinct e
  | .producer result => keysDistinct result
  | .settings level json version => keysDistinct level && keysDistinct json && keysDistinct version
  | .tagged _ content => keysDistinct content
  | _ => true

def allKeysDistinct : List Value → Bool
  | [] => true
  | x :: xs => keysDistinct x && allKeysDistinct xs

def eachKeysDistinct : List (Value × Value) → Bool
  | [] => true
  | (k, v) :: es => keysDistinct k && keysDistinct v && eachKeysDistinct es

end

@[simp] theorem keysDistinct_int (n : Int) : (int n).keysDistinct = true := rfl

@[simp] theorem keysDistinct_text (s : String) : (text s).keysDistinct = true := rfl

@[simp] theorem keysDistinct_list (xs : List Value) : (list xs).keysDistinct = allKeysDistinct xs := rfl

@[simp] theorem keysDistinct_tuple (xs : List Value) : (tuple xs).keysDistinct = allKeysDistinct xs := rfl

@[simp] theorem keysDistinct_dict (es : List (Value × Value)) :
    (dict es).keysDistinct = (distinctKeys es && eachKeysDistinct es) := rfl

@[simp] theorem keysDistinct_frozenDict (es : List (Value × Value)) :
    (frozenDict es).keysDistinct = (distinctKeys es && eachKeysDistinct es) := rfl

@[simp] theorem allKeysDistinct_nil : allKeysDistinct [] = true := rfl

@[simp] theorem allKeysDistinct_cons (x : Value) (xs : List Value) :
    allKeysDistinct (x :: xs) = (x.keysDistinct && allKeysDistinct xs) := rfl

@[simp] theorem eachKeysDistinct_nil : eachKeysDistinct [] = true := rfl

@[simp] theorem eachKeysDistinct_cons (e : Value × Value) (es : List (Value × Value)) :
    eachKeysDistinct (e :: es) = (e.1.keysDistinct && e.2.keysDistinct && eachKeysDistinct es) := rfl

end Value
end AccountInput
