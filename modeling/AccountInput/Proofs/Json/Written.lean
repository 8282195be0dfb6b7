import AccountInput.Json.Encoding
import AccountInput.Json.Reader
import AccountInput.Json.Writer
import AccountInput.Proofs.Text.Utf8
import AccountInput.Proofs.Value.Data

namespace AccountInput
namespace Json

theorem encoding_of_ascii {a b : UInt8} (first : 0 < a.toNat ∧ a.toNat < 128) (second : 0 < b.toNat)
    (bs : List UInt8) : encoding (a :: b :: bs) = (.utf8, a :: b :: bs) := by
  have plain : unmarkedEncoding (a :: b :: bs) = .utf8 := by
    have left : a ≠ 0 := by rintro rfl; exact absurd first.1 (by decide)
    have right : b ≠ 0 := by rintro rfl; exact absurd second (by decide)
    unfold unmarkedEncoding
    split
    · rename_i same
      cases same
      rw [if_neg left, if_neg right]
    · rename_i same
      cases same
      rw [if_neg left, if_neg right]
    · rfl
  unfold encoding
  split
  · rename_i same
    cases same
    exact absurd first.1 (by decide)
  · rename_i same
    cases same
    exact absurd first.2 (by decide)
  · rename_i same
    cases same
    exact absurd first.2 (by decide)
  · rename_i same
    cases same
    exact absurd first.2 (by decide)
  · rename_i same
    cases same
    exact absurd first.2 (by decide)
  · rw [plain]

theorem utf8EncodeChar_of_ascii {c : Char} (ascii : c.toNat < 128) :
    String.utf8EncodeChar c = [UInt8.ofNat c.toNat] := by
  have bound : c.val.toNat ≤ 127 := Nat.le_of_lt_succ ascii
  simp only [String.utf8EncodeChar, if_pos bound]
  rfl

/-- The bytes of a text that begins with two ASCII characters are read as the text. -/
theorem fileText?_encode {a b : Char} (first : 0 < a.toNat ∧ a.toNat < 128) (second : 0 < b.toNat ∧ b.toNat < 128)
    (cs : List Char) : fileText? (Utf8.encode (a :: b :: cs)) = some (a :: b :: cs) := by
  have bytes : Utf8.encode (a :: b :: cs) = UInt8.ofNat a.toNat :: UInt8.ofNat b.toNat :: Utf8.encode cs := by
    simp only [Utf8.encode, List.flatMap_cons, utf8EncodeChar_of_ascii first.2, utf8EncodeChar_of_ascii second.2]
    rfl
  have one : (UInt8.ofNat a.toNat).toNat = a.toNat := UInt8.toNat_ofNat_of_lt' (show a.toNat < 256 by omega)
  have two : (UInt8.ofNat b.toNat).toNat = b.toNat := UInt8.toNat_ofNat_of_lt' (show b.toNat < 256 by omega)
  have plain := encoding_of_ascii (one.symm ▸ first) (two.symm ▸ second.1) (Utf8.encode cs)
  rw [← bytes] at plain
  rw [fileText?, plain]
  exact Utf8.decodeWithHalves?_encode (a :: b :: cs)

/-- Characters that are certain tokens, whatever follows them. -/
def Lexes (cs : List Char) (ts : List Token) : Prop :=
  ∀ rest, tokensAfter 0 (cs ++ rest) = ts ++ tokensAfter 0 rest

theorem Lexes.append {cs ds : List Char} {ts us : List Token} (first : Lexes cs ts) (second : Lexes ds us) :
    Lexes (cs ++ ds) (ts ++ us) := by
  intro rest
  rw [List.append_assoc, first, second, List.append_assoc]

theorem Lexes.tokens {cs : List Char} {ts : List Token} (lexes : Lexes cs ts) : tokens cs = ts := by
  have whole := lexes []
  rw [List.append_nil] at whole
  exact whole.trans (List.append_nil ts)

/-- A token that is a whole value. -/
def Token.Spells (t : Token) (v : Value) : Prop :=
  ∀ orClose stack, readValue orClose stack t = .ok (.finish v stack)

theorem lexes_null : Lexes "null".toList [.null] := fun _ => rfl

theorem lexes_boolText (b : Bool) : Lexes (boolText b).toList [.bool b] := by
  cases b <;> exact fun _ => rfl

/-- Three members with values that are tokens of their own. -/
theorem read_members {cs : List Char} {n₁ n₂ n₃ : String} {t₁ t₂ t₃ : Token} {v₁ v₂ v₃ : Value}
    (lexes : Lexes cs [.openObject, .text n₁, .colon, t₁, .comma, .text n₂, .colon, t₂, .comma, .text n₃, .colon, t₃,
      .closeObject])
    (first : t₁.Spells v₁) (second : t₂.Spells v₂) (third : t₃.Spells v₃)
    (distinct : n₁ ≠ n₂ ∧ n₁ ≠ n₃ ∧ n₂ ≠ n₃) :
    read cs = .ok (.dict (Value.ofFields [(n₁, v₁), (n₂, v₂), (n₃, v₃)])) := by
  unfold Token.Spells at first second third
  have opened : readValue false [] .openObject = .ok ⟨.name [] true, []⟩ := rfl
  have grown : Value.insert (Value.insert (Value.insert [] (.text n₁) v₁) (.text n₂) v₂) (.text n₃) v₃ =
      Value.ofFields [(n₁, v₁), (n₂, v₂), (n₃, v₃)] := by
    obtain ⟨before₂, before₃, between⟩ := distinct
    have two : n₂ ∉ ([(n₁, v₁)] : Fields).map (·.1) := by
      simpa only [List.map_cons, List.map_nil, List.mem_singleton] using before₂.symm
    have three : n₃ ∉ ([(n₁, v₁), (n₂, v₂)] : Fields).map (·.1) := by
      simpa only [List.map_cons, List.map_nil, List.mem_cons, List.not_mem_nil, or_false, not_or] using
        And.intro before₃.symm between.symm
    have one : Value.insert [] (.text n₁) v₁ = Value.ofFields [(n₁, v₁)] := rfl
    rw [one, Value.insert_ofFields, Value.insert_ofFields, Fields.set_of_not_mem two]
    exact congrArg Value.ofFields (Fields.set_of_not_mem three v₃)
  rw [read, lexes.tokens, ofTokens]
  simp only [List.foldlM_cons, List.foldlM_nil, step, bind, Except.bind, opened, first, second, third, State.finish,
    readAfter, grown]
  rfl

end Json
end AccountInput
