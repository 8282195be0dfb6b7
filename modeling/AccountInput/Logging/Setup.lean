import AccountInput.Logging.Handler

namespace AccountInput
namespace Logging

/-- Changes in their order. A failure leaves the state as the changes before it have made it. -/
abbrev Changes := ExceptT Fault (StateM Logging)

def setLevel (level : Level) : Changes Unit := modify fun s => { s with level }

def removeHandler (h : Handler) : Changes Unit := modify fun s => { s with handlers := s.handlers.erase h }

def removeAll (hs : List Handler) : Changes Unit := do
  for h in hs do removeHandler h

def addHandler (h : Handler) : Changes Unit := modify fun s => { s with handlers := s.handlers ++ [h] }

/-- A call that configures logging, in the environment of its time. -/
structure Call where
  env : Env
  request : HandlerRequest

namespace Call

/-- The handler of a call, with the level that it chooses. -/
def handler (c : Call) (level : Level) : Handler := ⟨formOf c.env c.request, level.toInt, c.request.target⟩

/-- What a call does. The handlers to be removed are taken from the list as it is before any of them is. -/
def changes (c : Call) : Changes Unit := do
  let form := formOf c.env c.request
  let level ← ofExcept (Level.ofValue c.request.level)
  setLevel level
  unless c.request.keep do
    let found := (← get).handlers
    removeAll found
  addHandler ⟨form, level.toInt, c.request.target⟩

/-- A call on a state: its failure if it has one, and the state that it leaves. -/
def perform (c : Call) (s : Logging) : Except Fault Unit × Logging := c.changes.run.run s

end Call

/-- The state after calls in their order, whether they fail or not. -/
def after (s : Logging) (calls : List Call) : Logging := calls.foldl (fun s c => (c.perform s).2) s

end Logging
end AccountInput
