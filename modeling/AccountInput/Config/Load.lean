import AccountInput.Cbor.Codec
import AccountInput.Config.Path
import AccountInput.Config.Settings
import AccountInput.Json.Encoding
import AccountInput.Json.Reader
import AccountInput.Text.Numeral
import AccountInput.Toml.Reader
import AccountInput.Wire.Object

namespace AccountInput

/-- What a path leads to. -/
inductive FileEntry where
  | missing
  | directory
  | file (bytes : List UInt8)

/-- What an operation depends on besides its arguments. -/
structure Surroundings where
  env : Env
  /-- The working directory. -/
  directory : String
  /-- The home directory of a user; that of the caller has no name. -/
  home : String → Option String
  entry : List String → FileEntry
  /-- The codec of the bytes on the wire. -/
  codec : Cbor.Codec := .standard

namespace Config

/-- The value that the bytes of a JSON file spell. -/
def readJson (bs : List UInt8) : Except Fault Value :=
  match Json.fileText? bs with
  | none => .error (.incidental .malformedText "")
  | some cs =>
    match Json.read cs with
    | .ok v => .ok v
    | .error .malformed => .error (.incidental .malformedJson "")
    | .error .tooManyDigits => .error .tooManyDigits

/-- The table that the bytes of a TOML file spell. -/
def readToml (bs : List UInt8) : Except Fault Value :=
  match Utf8.decode? bs with
  | none => .error (.incidental .malformedText "")
  | some cs =>
    match Toml.read cs with
    | .ok es => .ok (.dict es)
    | .error .malformed => .error (.incidental .malformedToml "")
    | .error .tooManyDigits => .error .tooManyDigits
    | .error .tooDeep => .error (.incidental .malformedToml "maximum recursion depth exceeded")

/-- The settings of a file stand at its top or in a table of their own. -/
def section? (v : Value) : Option (List (Value × Value)) :=
  match v with
  | .dict es =>
    match Value.get? es "ledger" with
    | none => some es
    | some (.dict own) => some own
    | some _ => none
  | _ => none

/-- The content of a file, by the suffix of its path. -/
def readFile (path : List String) (bs : List UInt8) : Except Fault (List (Value × Value)) := do
  let shown := Path.text path
  let suffix := Path.suffix path
  let v ←
    if suffix == ".toml" || suffix == ".tml" then readToml bs
    else if suffix == ".json" then readJson bs
    else
      throw (Problem.config
        ("unsupported config format: " ++ suffix ++ "; use .toml or .json")
        [("path", .text shown)])
  match section? v with
  | some es => return es
  | none =>
    throw (Problem.config "config file must contain a table/object" [("path", .text shown)])

/-- The most bytes of a name, and of the whole of a path. -/
def nameLimit : Nat := 255
def pathLimit : Nat := 4095

/-- Whether looking for a path in a directory meets a name that is too long. What is no directory
ends the search before that. -/
def meetsLongName (w : Surroundings) (directory : List String) : List String → Bool
  | [] => false
  | name :: rest =>
    nameLimit < name.utf8ByteSize ||
      match w.entry (directory ++ [name]) with
      | .directory => meetsLongName w (directory ++ [name]) rest
      | _ => false

def fileEntries (w : Surroundings) (path : List String) :
    Except Fault (List (Value × Value)) :=
  match w.entry path with
  | .missing =>
    let shown := Path.text path
    if pathLimit < shown.utf8ByteSize || meetsLongName w [] path then
      .error (.incidental .nameTooLong "")
    else .error (Problem.config ("config file not found: " ++ shown) [("path", .text shown)])
  | .directory => .error (.incidental .isDirectory "")
  | .file bs => readFile path bs

/-- The path of the file: the one given, unless it is empty, or that of the environment. No path
holds a NUL. -/
def filePath (w : Surroundings) (given : Value) : Except Fault (Option (List String)) :=
  let ofText (s : String) : Except Fault (Option (List String)) :=
    if s.isEmpty then .ok none
    else
      match Path.resolve? w.home w.directory s with
      | some path => .ok (some path)
      | none => .error (.incidental .noHome "")
  if given.isTruthy then
    match given.text? with
    | none => .error .wrongType
    | some t => if t.toList.contains '\x00' then .error .badValue else given.str.bind ofText
  else ofText ((w.env.get? "LEDGER_CONFIG").getD "")

/-- The keys of entries that are no names of settings. -/
def unknownKeys (es : List (Value × Value)) : List String :=
  es.filterMap fun (k, _) =>
    match k.text? with
    | some name => if Settings.names.contains name then none else some name
    | none => none

/-- The settings with those of the entries of a file. -/
def withEntries (s : Settings) (es : List (Value × Value)) : Settings :=
  es.foldl (fun s (k, v) => (k.text?.bind fun name => s.set? name v).getD s) s

def fileLayer (w : Surroundings) (given : Value) (s : Settings) : Except Fault Settings := do
  match ← filePath w given with
  | none => return s
  | some path =>
    let es ← fileEntries w path
    match unknownKeys es with
    | [] => return withEntries s es
    | unknown =>
      throw (Problem.config "unknown config keys"
        [("keys", Wire.textList (Wire.sortTexts unknown))])

def levelVariable : String := "LEDGER_LOG_LEVEL"
def formatVariable : String := "LEDGER_LOG_FORMAT"
def versionVariable : String := "LEDGER_WIRE_VERSION"

def formatOfText (s : String) : Except Fault Value :=
  let word := Text.lower (Text.strip s)
  if word == "json" then .ok (.bool true)
  else if word == "text" then .ok (.bool false)
  else if word == "" || word == "auto" then .ok .null
  else
    .error (Problem.config
      (formatVariable ++ " must be json|text|auto, got " ++ Quoted.text word)
      [("env", .text formatVariable)])

def versionOfText (s : String) : Except Fault Value :=
  match Numeral.literal? s.toList with
  | some n => .ok (.int n)
  | none =>
    .error (Problem.configFrom
      (versionVariable ++ " must be int, got " ++ Quoted.text s)
      [("env", .text versionVariable)])

def envLayer (w : Surroundings) (s : Settings) : Except Fault Settings := do
  let logLevel :=
    match w.env.get? levelVariable with
    | none => s.logLevel
    | some t => .text (Text.strip t)
  let logJson ←
    match w.env.get? formatVariable with
    | none => pure s.logJson
    | some t => formatOfText t
  let wireVersion ←
    match w.env.get? versionVariable with
    | none => pure s.wireVersion
    | some t => versionOfText t
  return { logLevel, logJson, wireVersion }

def overrideLayer (overrides : Fields) (s : Settings) : Except Fault Settings :=
  overrides.foldlM (fun s (name, v) =>
    match s.set? name v with
    | some s => .ok s
    | none =>
      .error (Problem.config ("unknown config key " ++ Quoted.text name)
        [("key", .text name)])) s

/-- Loads the settings. Those that are returned keep the rules, and their level is in
capitals. -/
def load (w : Surroundings) (given : Value) (overrides : Fields) : Except Fault Settings := do
  let s ← fileLayer w given .default
  let s ← envLayer w s
  let s ← overrideLayer overrides s
  s.validate
  let level ← s.levelCapitals
  return { s with logLevel := .text level }

end Config
end AccountInput
