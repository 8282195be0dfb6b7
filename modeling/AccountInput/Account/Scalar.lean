import AccountInput.HashInput.Basic

namespace AccountInput

/-- An amount of currency. -/
structure Amount where
  val : Nat
  lt : val < UInt64.size
deriving DecidableEq

/-- A point in time or a length of time, in slots. -/
structure BlockTime where
  val : Nat
  lt : val < UInt64.size
deriving DecidableEq

namespace Amount

def ofNat? (n : Nat) : Option Amount :=
  if h : n < UInt64.size then some ⟨n, h⟩ else none

def zero : Amount := ⟨0, by decide⟩

def toFp (a : Amount) : Fp :=
  ⟨a.val, Nat.lt_trans a.lt (by decide)⟩

def hashInput (a : Amount) : HashInput := ⟨[.field a.toFp]⟩

end Amount

namespace BlockTime

def ofNat? (n : Nat) : Option BlockTime :=
  if h : n < UInt64.size then some ⟨n, h⟩ else none

def zero : BlockTime := ⟨0, by decide⟩

/-- The low 32 bits, which are all that the hash commits to: times that differ by a multiple of
`2 ^ 32` are committed alike. -/
def low32 (t : BlockTime) : Nat := t.val % UInt32.size

theorem low32_lt (t : BlockTime) : t.low32 < UInt32.size := Nat.mod_lt _ (by decide)

def toFp (t : BlockTime) : Fp :=
  ⟨t.low32, Nat.lt_trans t.low32_lt (by decide)⟩

end BlockTime

end AccountInput
