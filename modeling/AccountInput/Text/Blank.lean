namespace AccountInput
namespace Text

/-- The characters that count as blank around a text: the separators of Unicode 14 and the
control characters that end a line, a page or a record. -/
def isBlank (c : Char) : Bool :=
  let n := c.toNat
  (0x09 ≤ n && n ≤ 0x0d) || (0x1c ≤ n && n ≤ 0x20) || n == 0x85 || n == 0xa0 || n == 0x1680 ||
  (0x2000 ≤ n && n ≤ 0x200a) || n == 0x2028 || n == 0x2029 || n == 0x202f || n == 0x205f ||
  n == 0x3000

/-- A list without the blanks at its end. -/
def dropBlankEnd (cs : List Char) : List Char :=
  (cs.reverse.dropWhile isBlank).reverse

/-- A list without the blanks at both ends. -/
def trim (cs : List Char) : List Char :=
  dropBlankEnd (cs.dropWhile isBlank)

/-- A text without the blanks at both ends. -/
def strip (s : String) : String := String.ofList (trim s.toList)

/-- A text without the blanks at its end. -/
def stripEnd (s : String) : String := String.ofList (dropBlankEnd s.toList)

end Text
end AccountInput
