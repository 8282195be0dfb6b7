import AccountInput.HashInput.Basic
import AccountInput.Text.Utf8

namespace AccountInput

/-- The stored form of a token symbol. -/
structure TokenSymbol where
  bytes : List UInt8
  length_eq : bytes.length = 32
deriving DecidableEq

namespace TokenSymbol

def bufferBytes : Nat := 32

def maxLength : Nat := 6

def bits : Nat := 48

def ofBytes? (bs : List UInt8) : Option TokenSymbol :=
  if h : bs.length = 32 then some ⟨bs, h⟩ else none

def default : TokenSymbol := ⟨List.replicate 32 0, by decide⟩

def logical (s : TokenSymbol) : List UInt8 := s.bytes.take maxLength

/-- The text of the logical bytes, without the zeros that end them. -/
def text (s : TokenSymbol) : String :=
  String.ofList (Utf8.decodeReplacing ((s.logical.reverse.dropWhile (· = 0)).reverse))

/-- Whether every byte after the logical ones is zero. -/
def hasCleanTail (s : TokenSymbol) : Bool := (s.bytes.drop maxLength).all (· = 0)

theorem logical_lt_bits (s : TokenSymbol) : ofLittleEndian s.logical < Nat.pow 2 bits := by
  have bound := ofLittleEndian_lt s.logical
  have short : s.logical.length ≤ 6 := by
    rw [logical, List.length_take]
    exact Nat.min_le_left maxLength _
  have widest : Nat.pow 256 s.logical.length ≤ Nat.pow 256 6 := Nat.pow_le_pow_right (by decide) short
  exact Nat.lt_of_lt_of_le bound widest

theorem logical_lt (s : TokenSymbol) : ofLittleEndian s.logical < modulus :=
  Nat.lt_trans s.logical_lt_bits (by decide)

/-- The logical bytes as one number. Six bytes are always below the modulus. -/
def toFp (s : TokenSymbol) : Fp := ⟨ofLittleEndian s.logical, s.logical_lt⟩

def atoms (s : TokenSymbol) : List Atom := [.packed s.toFp bits]

def hashInput (s : TokenSymbol) : HashInput := ⟨s.atoms⟩

/-- A byte string followed by as many zeros as bring it to a width. -/
def padded (width : Nat) (bs : List UInt8) : List UInt8 :=
  bs ++ List.replicate (width - bs.length) 0

theorem length_padded {width : Nat} {bs : List UInt8} (short : bs.length ≤ width) :
    (padded width bs).length = width := by
  simp [padded]; omega

/-- The symbol of a text of at most six bytes; a longer text is answered by its length. -/
def ofText (s : String) : Except Nat TokenSymbol :=
  if h : (Utf8.ofString s).length ≤ maxLength then
    .ok ⟨padded 32 (Utf8.ofString s), length_padded (Nat.le_trans h (by decide))⟩
  else .error (Utf8.ofString s).length

end TokenSymbol

end AccountInput
