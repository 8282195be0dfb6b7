import AccountInput.Checked.Bytes
import Mathlib.Data.List.Forall2
import Mathlib.Data.List.TakeWhile

namespace AccountInput

namespace Text

theorem hexDigit?_digit (n : Nat) : hexDigit? (Hex.digit n) = some (n % 16) := by
  have digits : ∀ d < 16, hexDigit? (Nat.digitChar d) = some d := by decide
  exact digits (n % 16) (Nat.mod_lt n (by decide))

theorem dropWhile_of_solid {cs : List Char} (solid : ∀ c ∈ cs.head?, ¬isBlank c = true) : cs.dropWhile isBlank = cs := by
  cases cs with
  | nil => rfl
  | cons c cs => rw [List.dropWhile_cons, if_neg (solid c rfl)]

/-- The blanks at both ends are left out, and nothing else. -/
theorem trim_between {before core after : List Char} (blankBefore : ∀ c ∈ before, isBlank c = true)
    (solid : ∀ c ∈ core, ¬isBlank c = true) (blankAfter : ∀ c ∈ after, isBlank c = true) :
    trim (before ++ core ++ after) = core := by
  rw [trim, List.append_assoc, List.dropWhile_append_of_pos blankBefore]
  cases core with
  | nil =>
    rw [List.nil_append, List.dropWhile_eq_nil_iff.mpr blankAfter]
    rfl
  | cons c cs =>
    have first : ((c :: cs) ++ after).dropWhile isBlank = (c :: cs) ++ after :=
      dropWhile_of_solid fun d head => solid d (by cases head; exact List.mem_cons_self)
    have last : (c :: cs).reverse.dropWhile isBlank = (c :: cs).reverse :=
      dropWhile_of_solid fun d head => solid d (List.mem_reverse.mp (List.mem_of_mem_head? head))
    have blanks : ∀ d ∈ after.reverse, isBlank d = true := fun d member => blankAfter d (List.mem_reverse.mp member)
    rw [first, dropBlankEnd, List.reverse_append, List.dropWhile_append_of_pos blanks, last, List.reverse_reverse]

end Text

namespace Hex

/-- The spellings of a digit: as it is, and as a capital. -/
def IsCase (digit spelled : Char) : Prop := spelled = digit ∨ spelled = digit.toUpper

/-- What may stand before the digits. -/
def marks : List (List Char) := [[], ['0', 'x'], ['0', 'X']]

/-- Digits that spell bytes: two a byte, each in either case, of which the first may be left out where it is zero. -/
inductive SpellsDigits (bs : List UInt8) : List Char → Prop
  | full {ds : List Char} (same : List.Forall₂ IsCase (encode bs) ds) : SpellsDigits bs ds
  | short {ds : List Char} (same : List.Forall₂ IsCase (encode bs) ('0' :: ds)) : SpellsDigits bs ds

/-- A text that spells bytes: digits after a mark or none, with blanks around the whole. -/
inductive Spells (bs : List UInt8) : List Char → Prop
  | between {before mark digits after : List Char} (blankBefore : ∀ c ∈ before, Text.isBlank c = true)
      (marked : mark ∈ marks) (spells : SpellsDigits bs digits) (blankAfter : ∀ c ∈ after, Text.isBlank c = true) :
      Spells bs (before ++ (mark ++ digits) ++ after)

/-- What reading looks at in a digit: its value, and that it is no blank, no mark and within ASCII. -/
structure IsDigit (c : Char) (value : Nat) : Prop where
  denotes : Text.hexDigit? c = some value
  ascii : c.toNat < 0x80
  noGap : isGap c = false
  solid : Text.isBlank c = false
  noMark : c ≠ 'x' ∧ c ≠ 'X'

variable {bs : List UInt8} {cs ds mark : List Char} {c : Char}

theorem IsCase.isDigit {n : Nat} (same : IsCase (digit n) c) : IsDigit c (n % 16) := by
  have forms : ∀ d < 16, [Nat.digitChar d, (Nat.digitChar d).toUpper].all (fun c => decide (Text.hexDigit? c = some d ∧
      c.toNat < 0x80 ∧ isGap c = false ∧ Text.isBlank c = false ∧ c ≠ 'x' ∧ c ≠ 'X')) = true := by
    decide
  have form : c ∈ [digit n, (digit n).toUpper] := by simpa [IsCase] using same
  have both := List.all_eq_true.mp (forms (n % 16) (Nat.mod_lt n (by decide)))
  obtain ⟨denotes, ascii, noGap, solid, noMark⟩ := of_decide_eq_true (both c form)
  exact ⟨denotes, ascii, noGap, solid, noMark⟩

theorem encode_cons (b : UInt8) (bs : List UInt8) :
    encode (b :: bs) = digit (b.toNat / 16) :: digit b.toNat :: encode bs := rfl

theorem toList_text (bs : List UInt8) : (text bs).toList = encode bs := String.toList_ofList

theorem length_encode (bs : List UInt8) : (encode bs).length = 2 * bs.length := by
  induction bs with
  | nil => rfl
  | cons b bs ih =>
    rw [encode_cons, List.length_cons, List.length_cons, List.length_cons, ih]
    omega

/-- A byte is the number of its two digits. -/
theorem ofNat_digits (b : UInt8) : UInt8.ofNat (16 * (b.toNat / 16 % 16) + b.toNat % 16) = b := by
  have bound := b.toNat_lt
  have same : 16 * (b.toNat / 16 % 16) + b.toNat % 16 = b.toNat := by omega
  rw [same, UInt8.ofNat_toNat]

/-- What stands for the digits of bytes begins with two digits for the first byte. -/
theorem exists_digits_of_cons {b : UInt8} (same : List.Forall₂ IsCase (encode (b :: bs)) ds) :
    ∃ high low rest, ds = high :: low :: rest ∧ IsDigit high (b.toNat / 16 % 16) ∧ IsDigit low (b.toNat % 16) ∧
      List.Forall₂ IsCase (encode bs) rest := by
  rw [encode_cons] at same
  obtain ⟨high, tail, upper, after, rfl⟩ := List.forall₂_cons_left_iff.mp same
  obtain ⟨low, rest, lower, others, rfl⟩ := List.forall₂_cons_left_iff.mp after
  exact ⟨high, low, rest, rfl, upper.isDigit, lower.isDigit, others⟩

theorem isDigit_of_mem (same : List.Forall₂ IsCase (encode bs) ds) (member : c ∈ ds) : ∃ value, IsDigit c value := by
  induction bs generalizing ds with
  | nil =>
    cases same
    cases member
  | cons b bs ih =>
    obtain ⟨high, low, rest, rfl, upper, lower, others⟩ := exists_digits_of_cons same
    rcases List.mem_cons.mp member with rfl | member
    · exact ⟨_, upper⟩
    rcases List.mem_cons.mp member with rfl | member
    · exact ⟨_, lower⟩
    · exact ih others member

theorem decodeAt_of_cases (same : List.Forall₂ IsCase (encode bs) ds) (position : Nat) :
    decodeAt position ds = .ok bs := by
  induction bs generalizing ds position with
  | nil =>
    cases same
    rfl
  | cons b bs ih =>
    obtain ⟨high, low, rest, rfl, upper, lower, others⟩ := exists_digits_of_cons same
    simp only [decodeAt, upper.noGap, upper.denotes, lower.denotes, Bool.false_eq_true, if_false, ih others, Except.map,
      ofNat_digits]

theorem decode_of_cases (same : List.Forall₂ IsCase (encode bs) ds) : decode ds = .ok bs := by
  have ascii : ds.findIdx? (fun c => 0x80 ≤ c.toNat) = none := by
    refine List.findIdx?_eq_none_iff.mpr fun c member => decide_eq_false ?_
    obtain ⟨_, digit⟩ := isDigit_of_mem same member
    exact Nat.not_le.mpr digit.ascii
  rw [decode, ascii]
  exact decodeAt_of_cases same 0

/-- Evening out puts back the first digit where it has been left out, and only there. -/
theorem decode_evened (spells : SpellsDigits bs ds) : decode (evened ds) = .ok bs := by
  cases spells with
  | full same =>
    have even : ¬ds.length % 2 = 1 := by
      rw [← same.length_eq, length_encode]
      omega
    rw [evened, if_neg even]
    exact decode_of_cases same
  | short same =>
    have odd : ds.length % 2 = 1 := by
      have length := same.length_eq
      rw [length_encode, List.length_cons] at length
      omega
    rw [evened, if_pos odd]
    exact decode_of_cases same

theorem SpellsDigits.isDigit (spells : SpellsDigits bs ds) (member : c ∈ ds) : ∃ value, IsDigit c value := by
  cases spells with
  | full same => exact isDigit_of_mem same member
  | short same => exact isDigit_of_mem same (List.mem_cons_of_mem _ member)

/-- A mark is taken off, and no digits are taken for one. -/
theorem dropMark_append (marked : mark ∈ marks) (spells : SpellsDigits bs ds) : dropMark (mark ++ ds) = ds := by
  simp only [marks, List.mem_cons, List.not_mem_nil, or_false] at marked
  rcases marked with rfl | rfl | rfl
  · rw [List.nil_append]
    unfold dropMark
    split
    · obtain ⟨_, digit⟩ := spells.isDigit (c := 'x') (by simp)
      exact absurd rfl digit.noMark.1
    · obtain ⟨_, digit⟩ := spells.isDigit (c := 'X') (by simp)
      exact absurd rfl digit.noMark.2
    · rfl
  · rfl
  · rfl

theorem solid_of_mem (marked : mark ∈ marks) (spells : SpellsDigits bs ds) :
    ∀ c ∈ mark ++ ds, ¬Text.isBlank c = true := by
  intro c member
  rcases List.mem_append.mp member with within | within
  · have solid : marks.all (fun mark => mark.all fun c => !Text.isBlank c) = true := by decide
    have others := List.all_eq_true.mp (List.all_eq_true.mp solid mark marked) c within
    rw [Bool.not_eq_true', ← Bool.not_eq_true] at others
    exact others
  · obtain ⟨_, digit⟩ := spells.isDigit within
    rw [digit.solid]
    exact Bool.false_ne_true

/-- What is written for bytes spells them. -/
theorem spells_written (bs : List UInt8) (marked : mark ∈ marks) : Spells bs (mark ++ encode bs) := by
  have same : List.Forall₂ IsCase (encode bs) (encode bs) := List.forall₂_same.mpr fun _ _ => .inl rfl
  have whole : Spells bs ([] ++ (mark ++ encode bs) ++ []) :=
    .between (List.forall_mem_nil _) marked (.full same) (List.forall_mem_nil _)
  rwa [List.nil_append, List.append_nil] at whole

end Hex

namespace Value

theorem fromHex_of_spells {bs : List UInt8} {s : String} (spells : Hex.Spells bs s.toList) :
    fromHex (.text s) = .ok bs := by
  generalize text : s.toList = cs at spells
  obtain ⟨blankBefore, marked, digits, blankAfter⟩ := spells
  have read := Hex.decode_evened digits
  rw [← Hex.dropMark_append marked digits,
    ← Text.trim_between blankBefore (Hex.solid_of_mem marked digits) blankAfter, ← text] at read
  simp only [fromHex, text?, read]

/-- Bytes of every form are written as small digits, after the mark `0x` where that is asked for, and are read again
from that text and from all its variations: with either mark or none, with each digit in either case, without a first
digit that is zero, and with any blanks around the whole. -/
theorem fromHex_toHex (form : ByteForm) (bs : List UInt8) :
    (∀ marked : Value, ∃ s, toHex (.bytes form bs) marked = .ok s ∧
      s.toList = (if marked.isTruthy then ['0', 'x'] else []) ++ Hex.encode bs ∧ fromHex (.text s) = .ok bs) ∧
    ∀ s : String, Hex.Spells bs s.toList → fromHex (.text s) = .ok bs := by
  refine ⟨fun marked => ?_, fun s => fromHex_of_spells⟩
  have written : ∃ s, toHex (.bytes form bs) marked = .ok s ∧
      s.toList = (if marked.isTruthy then ['0', 'x'] else []) ++ Hex.encode bs := by
    refine ⟨_, rfl, ?_⟩
    split
    · rw [String.toList_append, Hex.toList_text]
      rfl
    · rw [Hex.toList_text, List.nil_append]
  obtain ⟨s, run, text⟩ := written
  have mark : (if marked.isTruthy then ['0', 'x'] else []) ∈ Hex.marks := by
    split <;> decide
  exact ⟨s, run, text, fromHex_of_spells (text ▸ Hex.spells_written bs mark)⟩

/-- A first byte of zero, of which a digit is left out next to the mark, capitals among small digits, and blanks of
three kinds around. -/
theorem fromHex_toHex_unruly :
    (∃ s, toHex (.bytes .view [0x00, 0xab, 0xcd, 0xe0]) (.bool true) = .ok s ∧ s.toList = "0x00abcde0".toList) ∧
      fromHex (.text "\u3000\t0X0aBCdE0\u00a0") = .ok [0x00, 0xab, 0xcd, 0xe0] := by
  obtain ⟨written, read⟩ := fromHex_toHex .view [0x00, 0xab, 0xcd, 0xe0]
  obtain ⟨s, run, text, -⟩ := written (.bool true)
  have same : List.Forall₂ Hex.IsCase (Hex.encode [0x00, 0xab, 0xcd, 0xe0]) ('0' :: "0aBCdE0".toList) := by
    unfold Hex.IsCase
    decide
  have spells : Hex.Spells [0x00, 0xab, 0xcd, 0xe0]
      (['\u3000', '\t'] ++ (['0', 'X'] ++ "0aBCdE0".toList) ++ ['\u00a0']) :=
    .between (List.all_eq_true.mp (by decide)) (by decide) (.short same) (List.all_eq_true.mp (by decide))
  exact ⟨⟨s, run, text⟩, read _ spells⟩

end Value
end AccountInput
