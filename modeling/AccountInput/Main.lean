import AccountInput.Config.Command
import AccountInput.Logging.Clock

namespace AccountInput
namespace CommandLine

/-- The variables of the environment that the command looks at. -/
def watched : List String :=
  ["LEDGER_CONFIG", Config.levelVariable, Config.formatVariable, Config.versionVariable,
    "NO_COLOR"]

def environment : IO Env :=
  watched.filterMapM fun name => do
    return (← IO.getEnv name).map fun value => (name, value)

def entryAt (path : String) : IO FileEntry := do
  let file := (← IO.currentDir) / path
  if ← file.isDir then return .directory
  else if ← file.pathExists then return .file (← IO.FS.readBinFile file).toList
  else return .missing

/-- The surroundings of a run: of all files, only the one that the run reads and the directories
above it are looked at. -/
def surroundings (given : Value) : IO Surroundings := do
  let env ← environment
  let directory := (← IO.currentDir).toString
  let own ← IO.getEnv "HOME"
  let home user := if user == "" then own else none
  let bare : Surroundings := { env, directory, home, entry := fun _ => .missing, codec := .standard }
  match Config.filePath bare given with
  | .ok (some path) =>
    let found ← (List.range path.length).mapM fun n => do
      let above := path.take (n + 1)
      return (above, ← entryAt (Path.text above))
    return { bare with entry := fun p => ((found.find? (·.1 == p)).map (·.2)).getD .missing }
  | _ => return bare

/-- The number of milliseconds since the first of January 1970: the time at which a file made for
this was changed last. -/
def now : IO Nat :=
  IO.FS.withTempFile fun _ path => do
    let t := (← path.metadata).modified
    return t.sec.toNat * 1000 + t.nsec.toNat / 1000000

def terminal : IO Terminal := do
  let isTerminal ← (← IO.getStderr).isTty
  return if isTerminal then .yes else .no

/-- Runs the command with the path of a file, or null. -/
def run (given : Value) : IO UInt32 := do
  let w ← surroundings given
  match Config.run w given (← terminal) (Clock.text (← now)) with
  | .ok outcome =>
    IO.eprint outcome.errors
    IO.print outcome.output
    return outcome.code.toUInt32
  | .error f =>
    IO.eprintln f.line
    return 1

end CommandLine
end AccountInput

def main (args : List String) : IO UInt32 :=
  AccountInput.CommandLine.run ((args.head?.map AccountInput.Value.text).getD .null)
