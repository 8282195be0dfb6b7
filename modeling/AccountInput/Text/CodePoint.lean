import AccountInput.Text.Quoted

namespace AccountInput

/-- A code point of a text that need not be well-formed: a character, or one of the 2048 halves into
which characters are split where two units take the place of one. -/
inductive CodePoint where
  | char (c : Char)
  | half (n : Fin 2048)
deriving DecidableEq

namespace CodePoint

/-- The number of the first half. -/
def firstHalf : Nat := 0xd800

def toNat : CodePoint → Nat
  | .char c => c.toNat
  | .half n => firstHalf + n

def ofNat? (n : Nat) : Option CodePoint :=
  if n.isValidChar then some (.char (Char.ofNat n))
  else if h : n - firstHalf < 2048 then some (.half ⟨n - firstHalf, h⟩)
  else none

def ofText (s : String) : List CodePoint := s.toList.map .char

/-- Code points as the error output writes them: halves of characters, which it cannot write, as
their numbers. -/
def written (ps : List CodePoint) : String :=
  String.ofList <| ps.flatMap fun
    | .char c => [c]
    | .half n => Quoted.numbered (firstHalf + n)

theorem written_ofText (s : String) : written (ofText s) = s := by
  rw [written, ofText, List.flatMap_map, List.flatMap_singleton', String.ofList_toList]

end CodePoint
end AccountInput
