import AccountInput.Value.Equal

namespace AccountInput
namespace Cbor

/-- An item. -/
inductive Item where
  | word (n : Fin UInt64.size)
  | text (s : String)
  | list (items : List Item)
  | map (entries : List (String × Item))

namespace Item

mutual

def toValue : Item → Value
  | .word n => .int n.val
  | .text s => .text s
  | .list items => .list (allToValue items)
  | .map entries => .dict (entriesToValue entries)

def allToValue : List Item → List Value
  | [] => []
  | i :: is => i.toValue :: allToValue is

def entriesToValue : List (String × Item) → List (Value × Value)
  | [] => []
  | (k, i) :: es => (.text k, i.toValue) :: entriesToValue es

end

end Item
end Cbor
end AccountInput
