import AccountInput.Checked.Account
import AccountInput.Proofs.Text.Padding
import AccountInput.Proofs.Text.Utf8

namespace AccountInput
namespace TokenSymbol

open Utf8

/-- The logical bytes without the zeros that end them. -/
def shown (s : TokenSymbol) : List UInt8 := s.logical.rdropWhile (· = 0)

theorem text_eq (s : TokenSymbol) : s.text = String.ofList (decodeReplacing s.shown) := rfl

theorem decodeReplacing_encode (cs : List Char) : decodeReplacing (encode cs) = cs := by
  rw [decodeReplacing, pieces_encode, List.map_map]
  exact List.map_id cs

/-- Six bytes at most, followed by zeros. -/
theorem ofText_eq_ok_iff {t : String} {s : TokenSymbol} :
    ofText t = .ok s ↔ (ofString t).length ≤ maxLength ∧ s.bytes = padded 32 (ofString t) := by
  obtain ⟨bytes, length⟩ := s
  unfold ofText
  split
  · rename_i short
    rw [Except.ok.injEq, mk.injEq, and_iff_right short]
    exact eq_comm
  · rename_i long
    exact ⟨nofun, fun short => absurd short.1 long⟩

variable {s : TokenSymbol} {bs : List UInt8}

theorem shown_of_padded (short : bs.length ≤ maxLength) (whole : s.bytes = padded 32 bs) :
    s.shown = bs.rdropWhile (· = 0) := by
  have front : s.logical = bs ++ List.replicate (maxLength - bs.length) 0 := by
    have zeros : min (maxLength - bs.length) (32 - bs.length) = maxLength - bs.length := by
      rw [maxLength] at short ⊢
      omega
    rw [logical, whole, padded, List.take_append, List.take_of_length_le short, List.take_replicate, zeros]
  rw [shown, front, Text.rdropWhile_append_replicate]

theorem hasCleanTail_iff : s.hasCleanTail = true ↔ s.bytes.drop maxLength = List.replicate 26 0 := by
  rw [hasCleanTail, List.all_eq_true]
  constructor
  · intro zeros
    have length : (s.bytes.drop maxLength).length = 26 := by rw [List.length_drop, s.length_eq, maxLength]
    rw [← length]
    exact List.eq_replicate_of_mem fun b member => of_decide_eq_true (zeros b member)
  · intro same b member
    rw [same] at member
    exact decide_eq_true (List.eq_of_mem_replicate member)

theorem hasCleanTail_of_padded (short : bs.length ≤ maxLength) (whole : s.bytes = padded 32 bs) :
    s.hasCleanTail = true := by
  have zeros : 32 - bs.length - (maxLength - bs.length) = 26 := by
    rw [maxLength] at short ⊢
    omega
  rw [hasCleanTail_iff, whole, padded, List.drop_append, List.drop_of_length_le short, List.nil_append,
    List.drop_replicate, zeros]

/-- A symbol with a clean tail is its shown bytes with zeros after them. -/
theorem eq_padded_shown (clean : s.hasCleanTail = true) :
    s.shown.length ≤ maxLength ∧ s.bytes = padded 32 s.shown := by
  obtain ⟨n, front⟩ := Text.exists_eq_rdropWhile_append 0 s.logical
  have bytes : s.bytes = s.shown ++ List.replicate (n + 26) 0 := by
    rw [← List.replicate_append_replicate, ← List.append_assoc, shown, ← front, ← hasCleanTail_iff.mp clean, logical,
      List.take_append_drop]
  have length := congrArg List.length bytes
  rw [s.length_eq, List.length_append, List.length_replicate] at length
  have short : s.shown.length ≤ maxLength := by
    rw [maxLength]
    omega
  refine ⟨short, ?_⟩
  rw [padded, bytes, show 32 - s.shown.length = n + 26 by omega]

theorem text_of_ofText {t : String} (made : ofText t = .ok s) :
    s.text = String.ofList (t.toList.rdropWhile (· = '\x00')) := by
  obtain ⟨short, whole⟩ := ofText_eq_ok_iff.mp made
  rw [text_eq, shown_of_padded short whole, ofString, rdropWhile_encode, decodeReplacing_encode]

theorem ofText_text_iff : ofText s.text = .ok s ↔ s.hasCleanTail = true ∧ IsValid s.shown := by
  constructor
  · intro made
    obtain ⟨short, whole⟩ := ofText_eq_ok_iff.mp made
    refine ⟨hasCleanTail_of_padded short whole, s.text.toList.rdropWhile (· = '\x00'), ?_⟩
    rw [shown_of_padded short whole, ofString, rdropWhile_encode]
  · rintro ⟨clean, cs, bytes⟩
    obtain ⟨short, whole⟩ := eq_padded_shown clean
    have written : ofString s.text = s.shown := by
      rw [text_eq, ← bytes, decodeReplacing_encode, ofString, String.toList_ofList]
    rw [ofText_eq_ok_iff, written]
    exact ⟨short, whole⟩

theorem ofTextValue_text (t : String) : ofTextValue (.text t) =
    match ofText t with
    | .ok u => .ok u
    | .error n => .error (.stated .badValue ("token symbol must be at most 6 bytes, got " ++ toString n)) := rfl

theorem ofTextValue_eq_ok_iff {t : String} {u : TokenSymbol} : ofTextValue (.text t) = .ok u ↔ ofText t = .ok u := by
  rw [ofTextValue_text]
  cases ofText t with
  | ok v => rw [Except.ok.injEq, Except.ok.injEq]
  | error n => exact ⟨nofun, nofun⟩

/-- Texts and symbols against each other, in both directions. -/
theorem ofTextValue_roundTrip (t : String) (s : TokenSymbol) :
    ((ofString t).length ≤ maxLength → ∃ u, ofTextValue (.text t) = .ok u ∧ u.hasCleanTail = true ∧
      u.text = String.ofList (t.toList.rdropWhile (· = '\x00'))) ∧
    (maxLength < (ofString t).length → ofTextValue (.text t) =
      .error (.stated .badValue ("token symbol must be at most 6 bytes, got " ++ toString (ofString t).length))) ∧
    (ofTextValue (.text s.text) = .ok s ↔ s.hasCleanTail = true ∧ IsValid s.shown) := by
  refine ⟨fun short => ?_, fun long => ?_, ofTextValue_eq_ok_iff.trans ofText_text_iff⟩
  · have wide : (ofString t).length ≤ 32 := short.trans (by decide)
    have made : ofText t = .ok ⟨padded 32 (ofString t), length_padded wide⟩ := ofText_eq_ok_iff.mpr ⟨short, rfl⟩
    exact ⟨_, ofTextValue_eq_ok_iff.mpr made, hasCleanTail_of_padded short rfl, text_of_ofText made⟩
  · rw [ofTextValue_text, ofText, dif_neg (Nat.not_le.mpr long)]

end TokenSymbol
end AccountInput
