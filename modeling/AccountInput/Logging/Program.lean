import AccountInput.Logging.Context

namespace AccountInput
namespace LogContext

/-- A change of the bound fields. -/
inductive Change where
  | bind (fs : Fields)
  | unbind (names : List String)
  | clear

def apply (c : LogContext) : Change → Except Fault LogContext
  | .bind fs => c.bind fs
  | .unbind names => .ok (c.unbind names)
  | .clear => .ok c.clear

/-- A part of a program. A scope comes with the random bytes from which an identifier would be made up. -/
inductive Code where
  | change (s : Change)
  | fail (f : Fault)
  | scope (id : Value) (random : Vector UInt8 TraceId.byteCount) (body : List Code)
  | attempt (body : List Code)

/-- The identifier that a scope binds: the given one, or one made up where none is given or an empty one. -/
def identifierOf (id : Value) (random : Vector UInt8 TraceId.byteCount) : Value :=
  if id.isTruthy then id else .text (TraceId.ofBytes random.toList)

/-- An open scope: the context that it found, the identifier that it bound, and the changes that were made in it
so far, those of the scopes within it apart. The program as a whole is one that binds no identifier. -/
structure Block where
  found : LogContext
  identifier : Option Value
  taken : List Change

/-- What waits for the end of the code that is running: the code after a scope, with the block around it, or the
code after a part whose failures are caught. -/
inductive Frame where
  | scope (outer : Block) (later : List Code)
  | attempt (later : List Code)

/-- A program that is running, with the failure that is on its way outwards if there is one. -/
structure Run where
  context : LogContext
  block : Block
  frames : List Frame
  rest : List Code
  failure : Option Fault

namespace Run

def start (c : LogContext) (program : List Code) : Run := ⟨c, ⟨c, none, []⟩, [], program, none⟩

def failing (r : Run) (f : Fault) : Run := { r with failure := some f }

/-- Executes a part, where `r` is the run of what comes after it. A scope that cannot bind its identifier is not
opened. -/
def execute (r : Run) : Code → Run
  | .change s =>
    match r.context.apply s with
    | .ok c => { r with context := c, block := { r.block with taken := r.block.taken ++ [s] } }
    | .error f => r.failing f
  | .fail f => r.failing f
  | .scope id random body =>
    match r.context.enter id (TraceId.ofBytes random.toList) with
    | .ok c => ⟨c, ⟨r.context, some (identifierOf id random), []⟩, .scope r.block r.rest :: r.frames, body, none⟩
    | .error f => r.failing f
  | .attempt body => { r with frames := .attempt r.rest :: r.frames, rest := body }

/-- Goes on with what waits. A scope is closed in the same way whether or not it has failed. -/
def leave (r : Run) : Option Run :=
  match r.frames with
  | [] => none
  | .scope outer later :: frames => some ⟨r.context.exit, outer, frames, later, r.failure⟩
  | .attempt later :: frames => some ⟨r.context, r.block, frames, later, none⟩

/-- The next step, if the program has not ended. A failure skips what is left of the running code. -/
def next (r : Run) : Option Run :=
  match r.failure, r.rest with
  | none, code :: later => some ({ r with rest := later }.execute code)
  | _, _ => r.leave

/-- The run after a number of steps, or at its end if it has fewer. -/
def after (r : Run) : Nat → Run
  | 0 => r
  | n + 1 =>
    match r.next with
    | none => r
    | some r' => r'.after n

end Run
end LogContext
end AccountInput
