import AccountInput.Number.Decimal
import AccountInput.Text.Quoted
import AccountInput.Value.Basic

namespace AccountInput
namespace Value

def boolText (b : Bool) : String := if b then "True" else "False"

/-- Where the types that have a module of their own are found. -/
def kindModules : List (String × String) :=
  [("Fp", "roinput.field"), ("ChunkedROInput", "roinput.chunked"),
    ("FieldAtom", "roinput.chunked"), ("PackedAtom", "roinput.chunked"),
    ("Amount", "ledger.types.numbers"), ("BlockTime", "ledger.types.numbers"),
    ("TimedData", "ledger.types.timing"), ("Timing", "ledger.types.timing"),
    ("Timed", "ledger.types.timing"), ("Untimed", "ledger.types.timing"),
    ("TokenSymbol", "ledger.types.token_symbol"), ("Versioned", "ledger.wire.v0"),
    ("UntimedV0", "ledger.wire.v0"), ("TimedV0", "ledger.wire.v0"),
    ("TimedDataV0", "ledger.wire.v0"), ("UntimedV1", "ledger.wire.v1"),
    ("TimedV1", "ledger.wire.v1"), ("TimedDataV1", "ledger.wire.v1"),
    ("LedgerConfig", "ledger.config")]

def kindText (name : String) : String :=
  if name == "LedgerErrorCode" then "<enum 'LedgerErrorCode'>"
  else
    match kindModules.find? (·.1 == name) with
    | some (_, home) => "<class '" ++ home ++ "." ++ name ++ "'>"
    | none => "<class '" ++ name ++ "'>"

def call (name : String) (parts : List (String × String)) : String :=
  name ++ "(" ++ ", ".intercalate (parts.map fun (k, v) => k ++ "=" ++ v) ++ ")"

def fpText (x : Fp) : String := "Fp(" ++ toString x.val ++ ")"

def amountText (a : Amount) : String := call "Amount" [("value", toString a.val)]

def blockTimeText (t : BlockTime) : String := call "BlockTime" [("value", toString t.val)]

def scheduleText (d : Schedule) : String :=
  call "TimedData" (scheduleFields.zip [amountText d.initialMinimumBalance,
    blockTimeText d.cliffTime, amountText d.cliffAmount, blockTimeText d.vestingPeriod,
    amountText d.vestingIncrement])

def timingText : Timing → String
  | .untimed => call "Untimed" []
  | .timed d => call "Timed" [("data", scheduleText d)]

def symbolText (s : TokenSymbol) : String := "TokenSymbol(0x" ++ Hex.text s.bytes ++ ")"

def atomText? : Atom → Option String
  | .field v => some (call "FieldAtom" [("value", fpText v)])
  | .packed v bits =>
    (Decimal.text? bits).map fun b => call "PackedAtom" [("value", fpText v), ("bits", b)]

def hashInputText? (h : HashInput) : Option String :=
  (h.atoms.mapM atomText?).map fun ts => call "ChunkedROInput" [("atoms", "[" ++ ", ".intercalate ts ++ "]")]

mutual

/-- The text of a value inside another. -/
def repr? : Value → Option String
  | .null => some "None"
  | .bool b => some (boolText b)
  | .int n => Decimal.text? n
  | .float x => some x.text
  | .text s => some (Quoted.text s)
  | .bytes .fixed b => some (Quoted.bytes b)
  | .bytes .growable b => some ("bytearray(" ++ Quoted.bytes b ++ ")")
  | .bytes .view _ => some "<memory>"
  | .list xs => (reprAll? xs).map fun ts => "[" ++ ", ".intercalate ts ++ "]"
  | .tuple [x] => (repr? x).map fun t => "(" ++ t ++ ",)"
  | .tuple xs => (reprAll? xs).map fun ts => "(" ++ ", ".intercalate ts ++ ")"
  | .dict es => (reprEach? es).map fun ts => "\x7b" ++ ", ".intercalate ts ++ "\x7d"
  | .frozenDict es =>
    (reprEach? es).map fun ts => "frozendict(\x7b" ++ ", ".intercalate ts ++ "\x7d)"
  | .code c => some ("<LedgerErrorCode." ++ c.name ++ ": '" ++ c.text ++ "'>")
  | .fp x => some (fpText x)
  | .amount a => some (amountText a)
  | .blockTime t => some (blockTimeText t)
  | .schedule d => some (scheduleText d)
  | .timing t => some (timingText t)
  | .foreignTiming => some "<Other object>"
  | .symbol s => some (symbolText s)
  | .envelope content version => do
    let c ← repr? content
    let v ← repr? version
    return call "Versioned" [("t", c), ("version", v)]
  | .untimedRecord s => some (call (recordName "Untimed" s) [])
  | .timedRecord s data => (repr? data).map fun t => call (recordName "Timed" s) [("data", t)]
  | .scheduleRecord s a b c d e => do
    let a ← repr? a
    let b ← repr? b
    let c ← repr? c
    let d ← repr? d
    let e ← repr? e
    return call (recordName "TimedData" s) (scheduleFields.zip [a, b, c, d, e])
  | .atom a => atomText? a
  | .hashInput h => hashInputText? h
  | .producer _ => some "<Wrap object>"
  | .settings level json version => do
    let l ← repr? level
    let j ← repr? json
    let v ← repr? version
    return call "LedgerConfig" [("log_level", l), ("log_json", j), ("wire_version", v)]
  | .plain => some "<object object>"
  | .kind n => some (kindText n)
  | .undefined => some "undefined"
  | .simple n => some ("CBORSimpleValue(" ++ toString n ++ ")")
  | .tagged tag content =>
    (repr? content).map fun t => "CBORTag(" ++ toString tag ++ ", " ++ t ++ ")"
  | .set false [] => some "set()"
  | .set false xs => (reprAll? xs).map fun ts => "\x7b" ++ ", ".intercalate ts ++ "\x7d"
  | .set true [] => some "frozenset()"
  | .set true xs =>
    (reprAll? xs).map fun ts => "frozenset(\x7b" ++ ", ".intercalate ts ++ "\x7d)"
  | .extended e => e.repr?

def reprAll? : List Value → Option (List String)
  | [] => some []
  | x :: xs => do
    let t ← repr? x
    let ts ← reprAll? xs
    return t :: ts

def reprEach? : List (Value × Value) → Option (List String)
  | [] => some []
  | (k, v) :: es => do
    let k ← repr? k
    let v ← repr? v
    let ts ← reprEach? es
    return (k ++ ": " ++ v) :: ts

end

/-- The text of a value on its own: a text is itself, a problem code its qualified name. -/
def str? : Value → Option String
  | .text s => some s
  | .code c => some ("LedgerErrorCode." ++ c.name)
  | .extended e => e.str?
  | v => repr? v

end Value
end AccountInput
