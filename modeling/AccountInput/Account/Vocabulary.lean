import AccountInput.Fault

namespace AccountInput
namespace Vocabulary

def home : String := "ledger.types"

def groups : List String := ["numbers", "timing", "token_symbol"]

/-- The kinds of values, and the one value that has a name of its own, each with its kind. -/
def kinds : List (String × String) :=
  [("Amount", "Amount"), ("BlockTime", "BlockTime"), ("Timed", "Timed"),
    ("TimedData", "TimedData"), ("Timing", "Timing"), ("TokenSymbol", "TokenSymbol"),
    ("UNTIMED", "Untimed"), ("Untimed", "Untimed")]

/-- All the names, in ascending order. -/
def names : List String := kinds.map (·.1) ++ groups

/-- What a name stands for: a group under its full name, or a kind. -/
def resolve (name : Value) : Except Fault String :=
  match name.text? with
  | none => .error .wrongType
  | some s =>
    if groups.contains s then .ok (home ++ "." ++ s)
    else
      match kinds.find? (·.1 == s) with
      | some (_, kind) => .ok kind
      | none => do
        let shown ← name.statedRepr
        throw (.stated .noAttribute
          ("module '" ++ home ++ "' has no attribute " ++ shown))

end Vocabulary
end AccountInput
