namespace AccountInput

/-- The low `width` bytes of a natural, the lowest first. -/
def littleEndian : (width : Nat) → Nat → List UInt8
  | 0, _ => []
  | width + 1, n => UInt8.ofNat (n % 256) :: littleEndian width (n / 256)

/-- The bytes of a natural, the lowest first, if they suffice for it. -/
def littleEndian? (width n : Nat) : Option (List UInt8) :=
  if n < Nat.pow 256 width then some (littleEndian width n) else none

def ofLittleEndian : List UInt8 → Nat
  | [] => 0
  | b :: bs => b.toNat + 256 * ofLittleEndian bs

/-- The low `width` bytes of a natural, the lowest last. -/
def bigEndian (width n : Nat) : List UInt8 := (littleEndian width n).reverse

def ofBigEndian (bs : List UInt8) : Nat := bs.foldl (fun n b => 256 * n + b.toNat) 0

@[simp] theorem littleEndian_zero (n : Nat) : littleEndian 0 n = [] := rfl

@[simp] theorem littleEndian_succ (width n : Nat) :
    littleEndian (width + 1) n = UInt8.ofNat (n % 256) :: littleEndian width (n / 256) := rfl

@[simp] theorem ofLittleEndian_nil : ofLittleEndian [] = 0 := rfl

@[simp] theorem ofLittleEndian_cons (b : UInt8) (bs : List UInt8) :
    ofLittleEndian (b :: bs) = b.toNat + 256 * ofLittleEndian bs := rfl

theorem length_littleEndian (width n : Nat) : (littleEndian width n).length = width := by
  induction width generalizing n with
  | zero => rfl
  | succ width ih => simp [ih]

theorem ofLittleEndian_lt (bs : List UInt8) : ofLittleEndian bs < Nat.pow 256 bs.length := by
  induction bs with
  | nil => simp
  | cons b bs ih =>
    have byte := b.toNat_lt
    have step : Nat.pow 256 (bs.length + 1) = Nat.pow 256 bs.length * 256 := rfl
    simp only [ofLittleEndian_cons, List.length_cons]
    omega

theorem ofLittleEndian_littleEndian (width n : Nat) :
    ofLittleEndian (littleEndian width n) = n % Nat.pow 256 width := by
  induction width generalizing n with
  | zero => simp [Nat.mod_one]
  | succ width ih =>
    have byte : (UInt8.ofNat (n % 256)).toNat = n % 256 := by simp
    have step : Nat.pow 256 (width + 1) = 256 * Nat.pow 256 width := Nat.mul_comm _ _
    rw [littleEndian_succ, ofLittleEndian_cons, byte, ih, step, Nat.mod_mul]

theorem ofLittleEndian_zeros (n : Nat) : ofLittleEndian (List.replicate n 0) = 0 := by
  induction n with
  | zero => rfl
  | succ n ih =>
    rw [List.replicate_succ, ofLittleEndian_cons, ih]
    rfl

theorem ofLittleEndian_append_zeros (bs : List UInt8) (n : Nat) :
    ofLittleEndian (bs ++ List.replicate n 0) = ofLittleEndian bs := by
  induction bs with
  | nil => exact ofLittleEndian_zeros n
  | cons b bs ih => rw [List.cons_append, ofLittleEndian_cons, ofLittleEndian_cons, ih]

theorem length_bigEndian (width n : Nat) : (bigEndian width n).length = width := by
  rw [bigEndian, List.length_reverse, length_littleEndian]

theorem ofBigEndian_reverse (bs : List UInt8) : ofBigEndian bs.reverse = ofLittleEndian bs := by
  induction bs with
  | nil => rfl
  | cons b bs ih =>
    rw [ofBigEndian] at ih
    rw [ofBigEndian, List.reverse_cons, List.foldl_append, ih, ofLittleEndian_cons, Nat.add_comm]
    rfl

theorem ofBigEndian_bigEndian (width n : Nat) : ofBigEndian (bigEndian width n) = n % Nat.pow 256 width := by
  rw [bigEndian, ofBigEndian_reverse, ofLittleEndian_littleEndian]

/-- Byte strings of one length that stand for one number are the same. -/
theorem ofLittleEndian_injective {as bs : List UInt8} (length : as.length = bs.length)
    (number : ofLittleEndian as = ofLittleEndian bs) : as = bs := by
  induction as generalizing bs with
  | nil => exact (List.length_eq_zero_iff.mp length.symm).symm
  | cons a as ih =>
    cases bs with
    | nil => simp at length
    | cons b bs =>
      have low := a.toNat_lt
      have low' := b.toNat_lt
      simp only [ofLittleEndian_cons] at number
      have first : a = b := UInt8.toNat_inj.mp (by omega)
      have rest : as = bs := ih (by simpa using length) (by omega)
      rw [first, rest]

end AccountInput
