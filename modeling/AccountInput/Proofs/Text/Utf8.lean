import AccountInput.Text.Utf8
import Mathlib.Data.List.DropRight
import Mathlib.Tactic.SplitIfs

namespace AccountInput
namespace Utf8

theorem isContinuation_iff (b : UInt8) : isContinuation b = true ↔ 128 ≤ b.toNat ∧ b.toNat ≤ 191 := by
  simp [isContinuation, UInt8.le_iff_toNat_le]

theorem isContinuation_ofNat {n : Nat} (bits : n < 64) : isContinuation (UInt8.ofNat (n + 128)) = true := by
  rw [isContinuation_iff, UInt8.toNat_ofNat_of_lt' (show n + 128 < 256 by omega)]
  omega

theorem low_ofNat {n : Nat} (bits : n < 64) : low (UInt8.ofNat (n + 128)) = n := by
  rw [low, UInt8.toNat_ofNat_of_lt' (show n + 128 < 256 by omega)]
  omega

theorem announced_eq (a : UInt8) : announced a =
    if a.toNat < 128 then 1
    else if 194 ≤ a.toNat ∧ a.toNat ≤ 223 then 2
    else if 224 ≤ a.toNat ∧ a.toNat ≤ 239 then 3
    else if 240 ≤ a.toNat ∧ a.toNat ≤ 244 then 4
    else 0 := by
  simp [announced, UInt8.lt_iff_toNat_lt, UInt8.le_iff_toNat_le]

theorem admitsSecond_eq (lead b : UInt8) : admitsSecond lead b =
    if lead.toNat = 224 then decide (160 ≤ b.toNat ∧ b.toNat ≤ 191)
    else if lead.toNat = 237 then decide (128 ≤ b.toNat ∧ b.toNat ≤ 159)
    else if lead.toNat = 240 then decide (144 ≤ b.toNat ∧ b.toNat ≤ 191)
    else if lead.toNat = 244 then decide (128 ≤ b.toNat ∧ b.toNat ≤ 143)
    else decide (128 ≤ b.toNat ∧ b.toNat ≤ 191) := by
  simp [admitsSecond, isContinuation, UInt8.le_iff_toNat_le, ← UInt8.toNat_inj]

theorem admitsSecond_ofNat {lead n : Nat} (byte : lead < 256) (bits : n < 64)
    (shortest : (lead = 224 → 32 ≤ n) ∧ (lead = 240 → 16 ≤ n))
    (character : (lead = 237 → n < 32) ∧ (lead = 244 → n < 16)) :
    admitsSecond (UInt8.ofNat lead) (UInt8.ofNat (n + 128)) = true := by
  rw [admitsSecond_eq, UInt8.toNat_ofNat_of_lt' byte,
    UInt8.toNat_ofNat_of_lt' (show n + 128 < 256 by omega)]
  split
  · exact decide_eq_true (by omega)
  split
  · exact decide_eq_true (by omega)
  split
  · exact decide_eq_true (by omega)
  split
  · exact decide_eq_true (by omega)
  · exact decide_eq_true (by omega)

theorem first_one {n : Nat} (lead : n < 128) (rest : List UInt8) :
    first (UInt8.ofNat n) rest = (some (Char.ofNat n), 0) := by
  have number := UInt8.toNat_ofNat_of_lt' (show n < 256 by omega)
  have announces : announced (UInt8.ofNat n) = 1 := by rw [announced_eq, number, if_pos lead]
  unfold first
  rw [announces, number]
  rfl

theorem first_two {a b : Nat} (lead : 194 ≤ a ∧ a ≤ 223) (second : b < 64) (rest : List UInt8) :
    first (UInt8.ofNat a) (UInt8.ofNat (b + 128) :: rest) = (some (Char.ofNat (a % 32 * 64 + b)), 1) := by
  have number := UInt8.toNat_ofNat_of_lt' (show a < 256 by omega)
  have announces : announced (UInt8.ofNat a) = 2 := by
    rw [announced_eq, number, if_neg (by omega), if_pos lead]
  unfold first
  rw [announces, number]
  change (if isContinuation (UInt8.ofNat (b + 128)) = true then _ else _) = _
  rw [if_pos (isContinuation_ofNat second), low_ofNat second]

theorem first_three {a b c : Nat} (lead : 224 ≤ a ∧ a ≤ 239) (second : b < 64) (third : c < 64)
    (shortest : a = 224 → 32 ≤ b) (character : a = 237 → b < 32) (rest : List UInt8) :
    first (UInt8.ofNat a) (UInt8.ofNat (b + 128) :: UInt8.ofNat (c + 128) :: rest) =
      (some (Char.ofNat ((a % 16 * 64 + b) * 64 + c)), 2) := by
  have number := UInt8.toNat_ofNat_of_lt' (show a < 256 by omega)
  have announces : announced (UInt8.ofNat a) = 3 := by
    rw [announced_eq, number, if_neg (by omega), if_neg (by omega), if_pos lead]
  have admits := admitsSecond_ofNat (show a < 256 by omega) second
    ⟨shortest, fun other => by omega⟩ ⟨character, fun other => by omega⟩
  unfold first
  rw [announces, number]
  change (if admitsSecond _ _ = true then if isContinuation (UInt8.ofNat (c + 128)) = true then _ else _ else _) = _
  rw [if_pos admits, if_pos (isContinuation_ofNat third), low_ofNat second, low_ofNat third]

theorem first_four {a b c d : Nat} (lead : 240 ≤ a ∧ a ≤ 244) (second : b < 64) (third : c < 64)
    (fourth : d < 64) (shortest : a = 240 → 16 ≤ b) (character : a = 244 → b < 16) (rest : List UInt8) :
    first (UInt8.ofNat a)
        (UInt8.ofNat (b + 128) :: UInt8.ofNat (c + 128) :: UInt8.ofNat (d + 128) :: rest) =
      (some (Char.ofNat (((a % 8 * 64 + b) * 64 + c) * 64 + d)), 3) := by
  have number := UInt8.toNat_ofNat_of_lt' (show a < 256 by omega)
  have announces : announced (UInt8.ofNat a) = 4 := by
    rw [announced_eq, number, if_neg (by omega), if_neg (by omega), if_neg (by omega), if_pos lead]
  have admits := admitsSecond_ofNat (show a < 256 by omega) second
    ⟨fun other => by omega, shortest⟩ ⟨fun other => by omega, character⟩
  unfold first
  rw [announces, number]
  change (if admitsSecond _ _ = true then if isContinuation (UInt8.ofNat (c + 128)) = true then
    if isContinuation (UInt8.ofNat (d + 128)) = true then _ else _ else _ else _) = _
  rw [if_pos admits, if_pos (isContinuation_ofNat third), if_pos (isContinuation_ofNat fourth), low_ofNat second,
    low_ofNat third, low_ofNat fourth]

/-- The bytes of a character are one piece. They are the shortest form, and no character is a
surrogate or above the last code point, so the first byte admits the second. -/
theorem first_encode (c : Char) (rest : List UInt8) : ∃ a tail,
    String.utf8EncodeChar c = a :: tail ∧ first a (tail ++ rest) = (some c, tail.length) := by
  have back : Char.ofNat c.val.toNat = c := Char.ofNat_toNat c
  have valid : c.val.toNat < 0xd800 ∨ 0xdfff < c.val.toNat ∧ c.val.toNat < 0x110000 := c.valid
  simp only [String.utf8EncodeChar]
  generalize c.val.toNat = v at back valid
  split
  · rename_i one
    refine ⟨_, _, rfl, ?_⟩
    rw [List.nil_append, first_one (by omega), back]
    rfl
  split
  · rename_i one two
    have number : (v / 64 % 32 + 192) % 32 * 64 + v % 64 = v := by omega
    refine ⟨_, _, rfl, (first_two (by omega) (by omega) rest).trans ?_⟩
    rw [number, back]
    rfl
  split
  · rename_i one two three
    have number : ((v / 4096 % 16 + 224) % 16 * 64 + v / 64 % 64) * 64 + v % 64 = v := by omega
    refine ⟨_, _, rfl,
      (first_three (by omega) (by omega) (by omega) (by omega) (by omega) rest).trans ?_⟩
    rw [number, back]
    rfl
  · rename_i one two three
    have number :
        (((v / 262144 % 8 + 240) % 8 * 64 + v / 4096 % 64) * 64 + v / 64 % 64) * 64 + v % 64 = v := by omega
    refine ⟨_, _, rfl,
      (first_four (by omega) (by omega) (by omega) (by omega) (by omega) (by omega) rest).trans ?_⟩
    rw [number, back]
    rfl

theorem piecesAfter_length (start : UInt8 → List UInt8 → Option Char × Nat) (tail rest : List UInt8) :
    piecesAfter start tail.length (tail ++ rest) = piecesAfter start 0 rest := by
  induction tail with
  | nil => rfl
  | cons b tail ih => exact ih

/-- A reading of pieces that takes every character for one piece gives the characters. -/
theorem piecesAfter_encode {start : UInt8 → List UInt8 → Option Char × Nat}
    (one : ∀ c rest, ∃ a tail, String.utf8EncodeChar c = a :: tail ∧ start a (tail ++ rest) = (some c, tail.length))
    (cs : List Char) : piecesAfter start 0 (encode cs) = cs.map some := by
  induction cs with
  | nil => rfl
  | cons c cs ih =>
    obtain ⟨a, tail, bytes, piece⟩ := one c (encode cs)
    have next : piecesAfter start 0 (a :: (tail ++ encode cs)) = some c :: piecesAfter start 0 (encode cs) := by
      simp only [piecesAfter, piece, piecesAfter_length]
    rw [encode, List.flatMap_cons, bytes]
    exact next.trans (congrArg (some c :: ·) ih)

theorem pieces_encode (cs : List Char) : pieces (encode cs) = cs.map some := piecesAfter_encode first_encode cs

theorem mapM_id_some (cs : List Char) : (cs.map some).mapM id = some cs := by
  induction cs with
  | nil => rfl
  | cons c cs ih => simp only [List.map_cons, List.mapM_cons, ih, id]; rfl

theorem decode?_encode (cs : List Char) : decode? (encode cs) = some cs := by
  rw [decode?, pieces_encode, mapM_id_some]

theorem utf8EncodeChar_ofNat {v : Nat} (valid : v.isValidChar) : String.utf8EncodeChar (Char.ofNat v) =
    if v ≤ 127 then [UInt8.ofNat v]
    else if v ≤ 2047 then [UInt8.ofNat (v / 64 % 32 + 192), UInt8.ofNat (v % 64 + 128)]
    else if v ≤ 65535 then
      [UInt8.ofNat (v / 4096 % 16 + 224), UInt8.ofNat (v / 64 % 64 + 128), UInt8.ofNat (v % 64 + 128)]
    else
      [UInt8.ofNat (v / 262144 % 8 + 240), UInt8.ofNat (v / 4096 % 64 + 128), UInt8.ofNat (v / 64 % 64 + 128),
        UInt8.ofNat (v % 64 + 128)] := by
  have number : (Char.ofNat v).val.toNat = v := by
    rw [Char.ofNat, dif_pos valid]
    rfl
  simp only [String.utf8EncodeChar, number]

theorem eq_ofNat {b : UInt8} {n : Nat} (number : b.toNat = n) : b = UInt8.ofNat n := by
  rw [← number, UInt8.ofNat_toNat]

theorem low_lt (b : UInt8) : low b < 64 := Nat.mod_lt _ (by decide)

/-- A byte that continues a character is told by its six low bits. -/
theorem toNat_of_isContinuation {b : UInt8} (continues : isContinuation b = true) : b.toNat = low b + 128 := by
  have range := (isContinuation_iff b).mp continues
  rw [low]
  omega

/-- What a lead byte asks of the byte after it. -/
theorem range_of_admitsSecond {lead b : UInt8} (admits : admitsSecond lead b = true) :
    b.toNat = low b + 128 ∧ (lead.toNat = 224 → 32 ≤ low b) ∧ (lead.toNat = 237 → low b < 32) ∧
      (lead.toNat = 240 → 16 ≤ low b) ∧ (lead.toNat = 244 → low b < 16) := by
  rw [admitsSecond_eq] at admits
  rw [low]
  split_ifs at admits <;> simp only [decide_eq_true_eq] at admits <;> omega

theorem announced_cases (a : UInt8) : announced a = 1 ∧ a.toNat < 128 ∨
    announced a = 2 ∧ 194 ≤ a.toNat ∧ a.toNat ≤ 223 ∨ announced a = 3 ∧ 224 ≤ a.toNat ∧ a.toNat ≤ 239 ∨
    announced a = 4 ∧ 240 ≤ a.toNat ∧ a.toNat ≤ 244 ∨ announced a = 0 := by
  rw [announced_eq]
  split_ifs <;> simp only [*, and_self, true_or, or_true]

theorem encode_one {a : UInt8} (lead : a.toNat < 128) : String.utf8EncodeChar (Char.ofNat a.toNat) = [a] := by
  rw [utf8EncodeChar_ofNat (.inl (by omega)), if_pos (by omega), UInt8.ofNat_toNat]

theorem encode_two {a b : UInt8} (lead : 194 ≤ a.toNat ∧ a.toNat ≤ 223) (second : isContinuation b = true) :
    String.utf8EncodeChar (Char.ofNat (a.toNat % 32 * 64 + low b)) = [a, b] := by
  have two := toNat_of_isContinuation second
  have bits := low_lt b
  rw [utf8EncodeChar_ofNat (.inl (by omega)), if_neg (by omega), if_pos (by omega),
    ← eq_ofNat (b := a) (by omega), ← eq_ofNat (b := b) (by omega)]

theorem encode_three {a b c : UInt8} (lead : 224 ≤ a.toNat ∧ a.toNat ≤ 239) (second : admitsSecond a b = true)
    (third : isContinuation c = true) :
    String.utf8EncodeChar (Char.ofNat ((a.toNat % 16 * 64 + low b) * 64 + low c)) = [a, b, c] := by
  obtain ⟨two, shortest, character, _⟩ := range_of_admitsSecond second
  have three := toNat_of_isContinuation third
  have bits := low_lt b
  have bits' := low_lt c
  -- the second byte keeps the number out of the shorter forms and of the surrogates
  have valid : Nat.isValidChar ((a.toNat % 16 * 64 + low b) * 64 + low c) := by
    by_cases half : a.toNat < 237 ∨ a.toNat = 237
    · exact .inl (by omega)
    · exact .inr (by omega)
  rw [utf8EncodeChar_ofNat valid, if_neg (by omega), if_neg (by omega), if_pos (by omega),
    ← eq_ofNat (b := a) (by omega), ← eq_ofNat (b := b) (by omega), ← eq_ofNat (b := c) (by omega)]

theorem encode_four {a b c d : UInt8} (lead : 240 ≤ a.toNat ∧ a.toNat ≤ 244) (second : admitsSecond a b = true)
    (third : isContinuation c = true) (fourth : isContinuation d = true) :
    String.utf8EncodeChar (Char.ofNat (((a.toNat % 8 * 64 + low b) * 64 + low c) * 64 + low d)) = [a, b, c, d] := by
  obtain ⟨two, _, _, shortest, character⟩ := range_of_admitsSecond second
  have three := toNat_of_isContinuation third
  have four := toNat_of_isContinuation fourth
  have bits := low_lt b
  have bits' := low_lt c
  have bits'' := low_lt d
  rw [utf8EncodeChar_ofNat (.inr (by omega)), if_neg (by omega), if_neg (by omega), if_neg (by omega),
    ← eq_ofNat (b := a) (by omega), ← eq_ofNat (b := b) (by omega), ← eq_ofNat (b := c) (by omega),
    ← eq_ofNat (b := d) (by omega)]

/-- A piece that is a character consists of the bytes of the character. -/
theorem encode_of_first {a : UInt8} {rest : List UInt8} {c : Char} {k : Nat} (piece : first a rest = (some c, k)) :
    ∃ tail more, rest = tail ++ more ∧ tail.length = k ∧ String.utf8EncodeChar c = a :: tail := by
  unfold first at piece
  rcases announced_cases a with ⟨lead, range⟩ | ⟨lead, range⟩ | ⟨lead, range⟩ | ⟨lead, range⟩ | lead
  all_goals rw [lead] at piece
  · cases piece
    exact ⟨[], rest, rfl, rfl, encode_one range⟩
  · match rest with
    | [] => cases piece
    | b :: more =>
      simp only at piece
      split at piece <;> cases piece
      exact ⟨[b], more, rfl, rfl, encode_two range ‹_›⟩
  · match rest with
    | [] => cases piece
    | [b] =>
      simp only at piece
      split at piece <;> cases piece
    | b :: d :: more =>
      simp only at piece
      split at piece
      · split at piece <;> cases piece
        exact ⟨[b, d], more, rfl, rfl, encode_three range ‹_› ‹_›⟩
      · cases piece
  · match rest with
    | [] => cases piece
    | [b] =>
      simp only at piece
      split at piece <;> cases piece
    | [b, d] =>
      simp only at piece
      split at piece
      · split at piece <;> cases piece
      · cases piece
    | b :: d :: e :: more =>
      simp only at piece
      split at piece
      · split at piece
        · split at piece <;> cases piece
          exact ⟨[b, d, e], more, rfl, rfl, encode_four range ‹_› ‹_› ‹_›⟩
        · cases piece
      · cases piece
  · cases rest <;> cases piece

theorem encode_of_piecesAfter {k : Nat} {bs : List UInt8} {cs : List Char}
    (read : (piecesAfter first k bs) = cs.map some) : encode cs = bs.drop k := by
  -- by bytes, of which those of the piece before are left out
  induction bs generalizing k cs with
  | nil =>
    have none : cs = [] := by
      cases k <;> exact List.map_eq_nil_iff.mp read.symm
    rw [none, List.drop_nil]
    rfl
  | cons a rest ih =>
    cases k with
    | succ k => exact ih read
    | zero =>
      cases cs with
      | nil => cases read
      | cons c cs =>
        obtain ⟨one, others⟩ := List.cons.inj read
        obtain ⟨tail, more, split, count, bytes⟩ := encode_of_first (k := (first a rest).2) (Prod.ext one rfl)
        have later : encode cs = more := by rw [ih others, ← count, split, List.drop_left]
        rw [encode, List.flatMap_cons, bytes, ← encode, later, split]
        rfl

theorem mapM_id_eq_some_iff {xs : List (Option Char)} {cs : List Char} : xs.mapM id = some cs ↔ xs = cs.map some := by
  refine ⟨fun read => ?_, fun same => by rw [same, mapM_id_some]⟩
  induction xs generalizing cs with
  | nil =>
    cases read
    rfl
  | cons x xs ih =>
    rw [List.mapM_cons, Option.bind_eq_bind, Option.bind_eq_some_iff] at read
    obtain ⟨c, one, read⟩ := read
    obtain ⟨ds, others, same⟩ := Option.bind_eq_some_iff.mp read
    cases same
    rw [ih others, List.map_cons]
    exact congrArg (· :: _) one

/-- The strict reading accepts the bytes of characters and nothing else. -/
theorem decode?_eq_some_iff {bs : List UInt8} {cs : List Char} : decode? bs = some cs ↔ encode cs = bs := by
  constructor
  · intro read
    exact encode_of_piecesAfter (mapM_id_eq_some_iff.mp read)
  · rintro rfl
    exact decode?_encode cs

instance (bs : List UInt8) : Decidable (IsValid bs) :=
  decidable_of_iff ((decode? bs).isSome = true) (by
    rw [Option.isSome_iff_exists]
    exact exists_congr fun _ => decode?_eq_some_iff)

example : IsValid [0xe2, 0x82, 0xac] ∧ ¬IsValid [0xe2, 0x82] ∧ ¬IsValid [0xed, 0xa0, 0x80] := by decide

/-- A zero byte ends the bytes of the zero character alone. -/
theorem exists_last_ne_zero {c : Char} (other : c ≠ '\x00') :
    ∃ front last, String.utf8EncodeChar c = front ++ [last] ∧ last ≠ 0 := by
  have last {n : Nat} (bits : n < 64) : UInt8.ofNat (n + 128) ≠ 0 := by
    intro zero
    have number := congrArg UInt8.toNat zero
    rw [UInt8.toNat_ofNat_of_lt' (show n + 128 < 256 by omega)] at number
    exact absurd number (Nat.succ_ne_zero _)
  have some : c.val.toNat ≠ 0 := fun zero => other (Char.ext (UInt32.toNat_inj.mp zero))
  simp only [String.utf8EncodeChar]
  generalize c.val.toNat = v at some
  split
  · refine ⟨[], _, rfl, fun zero => some ?_⟩
    have number := congrArg UInt8.toNat zero
    rwa [UInt8.toNat_ofNat_of_lt' (show v < 256 by omega)] at number
  split
  · exact ⟨[_], _, rfl, last (Nat.mod_lt v (by decide))⟩
  split
  · exact ⟨[_, _], _, rfl, last (Nat.mod_lt v (by decide))⟩
  · exact ⟨[_, _, _], _, rfl, last (Nat.mod_lt v (by decide))⟩

/-- The zero bytes that end a text are its zero characters. -/
theorem rdropWhile_encode (cs : List Char) : (encode cs).rdropWhile (· = 0) = encode (cs.rdropWhile (· = '\x00')) := by
  induction cs using List.reverseRecOn with
  | nil => rfl
  | append_singleton cs c ih =>
    have bytes : encode (cs ++ [c]) = encode cs ++ String.utf8EncodeChar c := by
      rw [encode, List.flatMap_append, List.flatMap_singleton, encode]
    by_cases zero : c = '\x00'
    · subst zero
      rw [bytes, show String.utf8EncodeChar '\x00' = [0] from rfl, List.rdropWhile_concat_pos _ _ _ (by decide), ih,
        List.rdropWhile_concat_pos _ _ _ (by decide)]
    · obtain ⟨front, last, one, other⟩ := exists_last_ne_zero zero
      rw [List.rdropWhile_concat_neg _ _ _ (by simpa using zero), bytes, one, ← List.append_assoc,
        List.rdropWhile_concat_neg _ _ _ (by simpa using other)]

/-- Half of a surrogate pair is no character. -/
theorem first_of_isHalf {a b c : UInt8} (half : isHalf a b c = true) (rest : List UInt8) :
    first a (b :: c :: rest) = (none, 0) := by
  simp only [isHalf, Bool.and_eq_true, decide_eq_true_eq] at half
  obtain ⟨⟨⟨lead, lower⟩, _⟩, _⟩ := half
  subst lead
  have refused : admitsSecond 0xed b = false := by
    have number : 160 ≤ b.toNat := UInt8.le_iff_toNat_le.mp lower
    rw [admitsSecond_eq]
    simp only [show (0xed : UInt8).toNat = 237 from rfl, Nat.reduceEqDiff, if_false, if_true, decide_eq_false_iff_not]
    omega
  have announces : announced 0xed = 3 := by decide
  simp only [first, announces, refused, Bool.false_eq_true, if_false]

theorem firstOrHalf_encode (c : Char) (rest : List UInt8) : ∃ a tail,
    String.utf8EncodeChar c = a :: tail ∧ firstOrHalf a (tail ++ rest) = (some c, tail.length) := by
  obtain ⟨a, tail, bytes, piece⟩ := first_encode c rest
  refine ⟨a, tail, bytes, ?_⟩
  unfold firstOrHalf
  split
  · rename_i b d more same
    rw [same] at piece ⊢
    split
    · rename_i half
      rw [first_of_isHalf half] at piece
      cases piece
    · exact piece
  · exact piece

theorem decodeWithHalves?_encode (cs : List Char) : decodeWithHalves? (encode cs) = some cs := by
  rw [decodeWithHalves?, piecesAfter_encode firstOrHalf_encode, mapM_id_some]

end Utf8
end AccountInput
