import AccountInput.Number.Endian

namespace AccountInput
namespace Cbor

/-- A network address of four or sixteen bytes, and the zone in which a longer one may hold. -/
structure Address where
  bytes : List UInt8
  zone : Option String
deriving DecidableEq

namespace Address

/-- The address of bytes in no zone. -/
def ofBytes (bs : List UInt8) : Address := ⟨bs, none⟩

def bits (a : Address) : Nat := a.bytes.length * 8

/-- The name of a kind of addresses, after the version that their length shows. -/
def kindName (a : Address) (kind : String) : String :=
  (if a.bytes.length = 4 then "IPv4" else "IPv6") ++ kind

def pairs : List UInt8 → List Nat
  | a :: b :: rest => (a.toNat * 256 + b.toNat) :: pairs rest
  | _ => []

def zeroRun (ns : List Nat) : Nat := (ns.takeWhile (· = 0)).length

/-- The text of eight numbers between colons, in which the first of the longest runs of two or
more zeros is left out. -/
def colonText (ns : List Nat) : String :=
  let join (ns : List Nat) := ":".intercalate (ns.map fun n => String.ofList (Nat.toDigits 16 n))
  let runs := (List.range ns.length).map fun i => zeroRun (ns.drop i)
  let longest := runs.foldl max 0
  if longest < 2 then join ns
  else
    let start := runs.findIdx (· = longest)
    join (ns.take start) ++ "::" ++ join (ns.drop (start + longest))

/-- The text of an address, with its zone after a percent sign. -/
def text (a : Address) : String :=
  let numbers :=
    if a.bytes.length = 4 then ".".intercalate (a.bytes.map fun b => toString b.toNat)
    else colonText (pairs a.bytes)
  match a.zone with
  | some zone => numbers ++ "%" ++ zone
  | none => numbers

/-- The text of an address and a number of leading bits. -/
def textWithin (a : Address) (width : Nat) : String := a.text ++ "/" ++ toString width

/-- The address with zeros in place of all but a number of leading bits. -/
def masked (a : Address) (width : Nat) : Address :=
  let low := a.bits - width
  { a with
    bytes := bigEndian a.bytes.length (ofBigEndian a.bytes / Nat.pow 2 low * Nat.pow 2 low) }

end Address
end Cbor
end AccountInput
