import HelpText.Failure
import HelpText.Text.Blank
import HelpText.Text.Uppercase
import HelpText.Toml.Reader

/-!
The settings of a run. Each is taken from the invocation if given there, else from the settings
file, else it is the default; the result is checked whatever its origin.
-/

namespace HelpText

/-- Everything a run has to be told. -/
structure Settings where
  source : Path
  destination : Path
  full : Bool := false
  license : Option Text := none
  sort : Bool := true
  strictNames : Bool := false
  outputName : Text := .of "docs.go"
  extension : Text := .of ".md"
  logLevel : Text := .of "INFO"
  logFile : Option Path := none
  deriving DecidableEq, Repr

namespace Settings

/-- What an invocation says of the settings that a file may hold too. -/
structure Overrides where
  full : Option Bool := none
  license : Option Text := none
  sort : Option Bool := none
  strictNames : Option Bool := none
  outputName : Option Text := none
  logLevel : Option Text := none
  logFile : Option Path := none
  deriving DecidableEq, Repr

/-- The name of the settings file that is looked for when none is asked for. -/
def fileName : Text := .of "mdtogo.toml"

def generationTable : Text := .of "generation"

def loggingTable : Text := .of "logging"

def defaults : Rows :=
  [(generationTable, .table
      [(.of "full", .boolean false), (.of "license", .null), (.of "sort", .boolean true),
        (.of "strict_names", .boolean false), (.of "output_name", .text (.of "docs.go")),
        (.of "extension", .text (.of ".md"))]),
    (loggingTable, .table [(.of "level", .text (.of "INFO")), (.of "file", .null)])]

def setting (rows : Rows) (table key : Text) : Value :=
  match rows.get? table with
  | some (.table inner) => (Table.get? inner key).getD .null
  | _ => .null

/-- A truth value; the kinds are settled by the merge. -/
def Value.isTrue : Value → Bool
  | .boolean b => b
  | _ => false

def Value.text? : Value → Option Text
  | .text t => some t
  | _ => none

/-- The words for yes and for no. -/
def trueWords : List Text := [.of "true", .of "1", .of "yes", .of "on"]

def falseWords : List Text := [.of "false", .of "0", .of "no", .of "off"]

/-- A truth value as it is written in an invocation. Only ASCII letters spell one, so that lower
case is that of ASCII. -/
def readBoolean (value : Text) : Except Fault Bool :=
  let word := (Text.trim value).map Char.toLower
  if word ∈ trueWords then .ok true
  else if word ∈ falseWords then .ok false
  else .error (.notBoolean value)

def readRows (fs : FileSystem) (path : Path) : Except Stop Rows :=
  match fs.readFile path with
  | .error (.system .notFound _) => .error (.failure (.settings (.fileMissing path)))
  | .error fault => .error (.ofFault (fun fault => .settings (.fileUnreadable path fault)) fault)
  | .ok bytes =>
    match Utf8.decode bytes with
    | .error fault => .error (.interruption (.encoding fault))
    | .ok t =>
      match Toml.read t with
      | .ok rows => .ok rows
      | .error .malformed =>
        .error (.failure (.settings (.fileMalformed path (fs.platform.tomlRefusal t))))
      | .error (.tooManyDigits count) => .error (.interruption (.longInteger count))

/-- The settings file to use: the one asked for, or that of the directory `base`. -/
def filePath (fs : FileSystem) (asked : Option Path) (base : Path) : Except Stop Path :=
  match asked with
  | some path => (fs.expandHome path).mapError fun fault => .interruption (.path fault)
  | none => .ok (base ++ { names := [fileName] })

/-- The rows to take the settings from: the defaults with the settings file, if there is one, merged
into them. A file that was asked for has to be there. -/
def mergedRows (fs : FileSystem) (asked : Option Path) (base : Path) : Except Stop Rows := do
  let path ← filePath fs asked base
  let found ← (fs.pathExists path).mapError fun fault => Stop.interruption (.path fault)
  if found then
    match mergeRows [] defaults (← readRows fs path) with
    | (rows, none) => .ok rows
    | (_, some fault) => .error (.failure (.settings (.merge fault)))
  else if asked.isSome then .error (.failure (.settings (.fileMissing path)))
  else .ok defaults

def licenseOf : Value → Except Fault (Option Text)
  | .null => .ok none
  | .text t => .ok (some t)
  | _ => .error .licenseNotText

def checkOutputName (value : Text) : Except Fault Text :=
  let name := Text.trim value
  if name = [] then .error .outputNameEmpty
  else if (Path.read name).name ≠ name then .error (.outputNameNotBare name)
  else .ok name

def checkExtension (value : Text) : Except Fault Text :=
  if value.all fun c => c = '.' || c = ' ' then .error .extensionEmpty
  else
    let extension := Text.trim value
    .ok (if extension.head? = some '.' then extension else '.' :: extension)

def checkLogLevel (value : Text) : Except Fault Text :=
  if Text.isBlank value then .error .logLevelEmpty else .ok (Text.upper (Text.trim value))

/-- The log file named in a settings file; a blank name is none. -/
def logFileOf (fs : FileSystem) : Value → Except Stop (Option Path)
  | .null => .ok none
  | .text t =>
    if Text.isBlank t then .ok none
    else match fs.expandHome (Path.read (Text.trim t)) with
      | .ok path => .ok (some path)
      | .error fault => .error (.interruption (.path fault))
  | _ => .error (.failure (.settings .logFileNotText))

def checked {α : Type} (result : Except Fault α) : Except Stop α :=
  result.mapError fun fault => .failure (.settings fault)

/-- The settings of a run. `asked` is the settings file asked for, `base` the directory in which one
is looked for otherwise. -/
def load (fs : FileSystem) (source destination : Path) (asked : Option Path) (base : Path)
    (overrides : Overrides) : Except Stop Settings := do
  let rows ← mergedRows fs asked base
  let generation := setting rows generationTable
  let logging := setting rows loggingTable
  -- The order of the checks decides which of several faults is reported.
  let license ← checked (licenseOf (generation (.of "license")))
  let outputName ← checked (checkOutputName
    (overrides.outputName.getD ((generation (.of "output_name")).text?.getD [])))
  let extension ← checked (checkExtension ((generation (.of "extension")).text?.getD []))
  let logLevel ← checked (checkLogLevel
    (overrides.logLevel.getD ((logging (.of "level")).text?.getD [])))
  let logFile ← logFileOf fs (logging (.of "file"))
  pure {
    source
    destination
    full := overrides.full.getD (generation (.of "full")).isTrue
    license := overrides.license.or license
    sort := overrides.sort.getD (generation (.of "sort")).isTrue
    strictNames := overrides.strictNames.getD (generation (.of "strict_names")).isTrue
    outputName
    extension
    logLevel
    logFile := overrides.logFile.or logFile }

end Settings

end HelpText
