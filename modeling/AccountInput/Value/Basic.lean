import AccountInput.Account.Timing
import AccountInput.Account.TokenSymbol
import AccountInput.Value.Object

namespace AccountInput

/-- The stable codes of the library's problems. -/
inductive ProblemCode where
  | internal
  | config
  | deserialization
  | graphqlParse
  | wireFormat
deriving DecidableEq

namespace ProblemCode

def name : ProblemCode → String
  | .internal => "INTERNAL"
  | .config => "CONFIG"
  | .deserialization => "DESERIALIZATION"
  | .graphqlParse => "GRAPHQL_PARSE"
  | .wireFormat => "WIRE_FORMAT"

def text (c : ProblemCode) : String := "LEDGER/" ++ c.name

def ofName? (s : String) : Option ProblemCode :=
  [internal, config, deserialization, graphqlParse, wireFormat].find? (·.name == s)

end ProblemCode

/-- The two generations of wire records. -/
inductive Schema where
  | v0
  | v1
deriving DecidableEq

/-- Three ways to hold bytes: for good, open to change, or as a view of others. -/
inductive ByteForm where
  | fixed
  | growable
  | view
deriving DecidableEq

/-- A loose value. The keys of a dictionary are distinct and stand in the order of insertion. -/
inductive Value where
  | null
  | bool (b : Bool)
  | int (n : Int)
  | float (x : Double)
  | text (s : String)
  | bytes (form : ByteForm) (data : List UInt8)
  | list (items : List Value)
  | tuple (items : List Value)
  | dict (entries : List (Value × Value))
  | frozenDict (entries : List (Value × Value))
  | code (c : ProblemCode)
  | fp (x : Fp)
  | amount (a : Amount)
  | blockTime (t : BlockTime)
  | schedule (d : Schedule)
  | timing (t : Timing)
  | foreignTiming
  | symbol (s : TokenSymbol)
  | envelope (content version : Value)
  | untimedRecord (schema : Schema)
  | timedRecord (schema : Schema) (data : Value)
  | scheduleRecord (schema : Schema)
      (initialMinimumBalance cliffTime cliffAmount vestingPeriod vestingIncrement : Value)
  | atom (a : Atom)
  | hashInput (h : HashInput)
  | producer (result : Value)
  | settings (logLevel logJson wireVersion : Value)
  | plain
  | kind (name : String)
  | undefined
  /-- A value without content of its own, which counts as its number among integers. -/
  | simple (n : Nat)
  | tagged (tag : Nat) (content : Value)
  | set (frozen : Bool) (items : List Value)
  | extended (e : Extended Value)

namespace Value

@[match_pattern]
abbrev standard (s : Standard) : Value := .extended (.standard s)

def emptyDict : Value := .dict []

def recordName (base : String) : Schema → String
  | .v0 => base ++ "V0"
  | .v1 => base ++ "V1"

/-- The names of the types whose type is that of abstract classes. -/
def abstractKinds : List String := ["Timing", "Timed", "Untimed", "Other"]

/-- The name of the type of a value, as problems report it. -/
def typeName : Value → String
  | .null => "NoneType"
  | .bool _ => "bool"
  | .int _ => "int"
  | .float _ => "float"
  | .text _ => "str"
  | .bytes .fixed _ => "bytes"
  | .bytes .growable _ => "bytearray"
  | .bytes .view _ => "memoryview"
  | .list _ => "list"
  | .tuple _ => "tuple"
  | .dict _ => "dict"
  | .frozenDict _ => "frozendict"
  | .code _ => "LedgerErrorCode"
  | .fp _ => "Fp"
  | .amount _ => "Amount"
  | .blockTime _ => "BlockTime"
  | .schedule _ => "TimedData"
  | .timing .untimed => "Untimed"
  | .timing (.timed _) => "Timed"
  | .foreignTiming => "Other"
  | .symbol _ => "TokenSymbol"
  | .envelope .. => "Versioned"
  | .untimedRecord s => recordName "Untimed" s
  | .timedRecord s _ => recordName "Timed" s
  | .scheduleRecord s .. => recordName "TimedData" s
  | .atom (.field _) => "FieldAtom"
  | .atom (.packed ..) => "PackedAtom"
  | .hashInput _ => "ChunkedROInput"
  | .producer _ => "Wrap"
  | .settings .. => "LedgerConfig"
  | .plain => "object"
  | .kind n =>
    if abstractKinds.contains n then "ABCMeta"
    else if n == "LedgerErrorCode" then "EnumType" else "type"
  | .undefined => "UndefinedType"
  | .simple _ => "CBORSimpleValue"
  | .tagged .. => "CBORTag"
  | .set false _ => "set"
  | .set true _ => "frozenset"
  | .extended e => e.typeName

/-- The names of the five fields of a schedule, in the order of the hash input. -/
def scheduleFields : List String :=
  ["initial_minimum_balance", "cliff_time", "cliff_amount", "vesting_period",
    "vesting_increment"]

/-- The named parts of a value that has a fixed set of them. -/
def fields : Value → List (String × Value)
  | .fp x => [("n", .int x.val)]
  | .amount a => [("value", .int a.val)]
  | .blockTime t => [("value", .int t.val)]
  | .schedule d =>
    scheduleFields.zip [.amount d.initialMinimumBalance, .blockTime d.cliffTime,
      .amount d.cliffAmount, .blockTime d.vestingPeriod, .amount d.vestingIncrement]
  | .timing (.timed d) => [("data", .schedule d)]
  | .symbol s => [("data", .bytes .fixed s.bytes)]
  | .envelope content version => [("t", content), ("version", version)]
  | .timedRecord _ data => [("data", data)]
  | .scheduleRecord _ a b c d e => scheduleFields.zip [a, b, c, d, e]
  | .atom (.field v) => [("value", .fp v)]
  | .atom (.packed v bits) => [("value", .fp v), ("bits", .int bits)]
  | .settings level json version =>
    [("log_level", level), ("log_json", json), ("wire_version", version)]
  | _ => []

/-- The part of a value with a given name. -/
def part? (v : Value) (name : String) : Option Value :=
  match v with
  | .code c => if name == "value" then some (.text c.text) else
    if name == "name" then some (.text c.name) else none
  | _ => (v.fields.find? (·.1 == name)).map (·.2)

/-- The attribute of a value with a given name: a part of it, or what an object has there. -/
def attribute? (v : Value) (name : String) : Option (Attribute Value) :=
  match v with
  | .extended (.object o) => (o.attributes.find? (·.1 == name)).map (·.2)
  | _ => (v.part? name).map .holds

/-- The content of a text; a problem code is one. -/
def text? : Value → Option String
  | .text s => some s
  | .code c => some c.text
  | _ => none

/-- The content of a value of one of the byte forms. -/
def bytes? : Value → Option (List UInt8)
  | .bytes _ b => some b
  | _ => none

/-- An integer; the truth values are the integers zero and one. -/
def int? : Value → Option Int
  | .int n => some n
  | .bool b => some b.toNat
  | _ => none

/-- An integer that is not a truth value. -/
def strictInt? : Value → Option Int
  | .int n => some n
  | _ => none

/-- Whether a value counts as true, where that can be told: it is not empty, not zero and not null. -/
def isTruthy : Value → Bool
  | .null => false
  | .bool b => b
  | .int n => n != 0
  | .float x => !x.isZero
  | .text s => !s.isEmpty
  | .bytes _ b => !b.isEmpty
  | .list xs | .tuple xs | .set _ xs => !xs.isEmpty
  | .dict es | .frozenDict es => !es.isEmpty
  | .fp x => x.val != 0
  | .hashInput h => !h.atoms.isEmpty
  | .undefined => false
  | .extended e => e.isTruthy
  | _ => true

def items? : Value → Option (List Value)
  | .list xs => some xs
  | .tuple xs => some xs
  | _ => none

def entries? : Value → Option (List (Value × Value))
  | .dict es => some es
  | .frozenDict es => some es
  | _ => none

end Value

end AccountInput
