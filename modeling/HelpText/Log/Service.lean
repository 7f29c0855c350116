import HelpText.Log.Hierarchy
import HelpText.Log.RotatingFile

/-!
Loggers and where their records go. A logger that was configured has handlers of its own; any other
one hands its records to the nearest configured logger above it in the dotted hierarchy. Records
that meet no handler at all are shown from the level of warnings on.
-/

namespace HelpText

namespace Log

/-- Where records of a logger go. A `silent` handler takes records and drops them. -/
inductive Handler where
  | file (log : RotatingFile)
  | console
  | silent
  deriving DecidableEq, Repr

def Handler.level : Handler → Int
  | .file log => log.level
  | .console => debug
  | .silent => 0

/-- How a logger is to be configured. -/
structure Configuration where
  level : Text := .of "INFO"
  verbose : Bool := false
  file : Option Path := none
  limit : Nat := 5 * 1024 * 1024
  backups : Nat := 3
  deriving DecidableEq, Repr

/-- What all loggers share: the open files, the loggers in use, the handlers of those that were
configured, the answers to whether a logger takes records of a level, what was written to standard
error, and the time. -/
structure Service where
  disk : OpenFiles
  hierarchy : Hierarchy := []
  loggers : Table Text (List Handler) := []
  settled : Table (Text × Int) Bool := []
  standardError : Text := []
  clock : Binary64

/-- The least level that a configured logger takes, and the least that is taken without one. -/
def configuredLevel : Int := debug

def defaultLevel : Int := warning

namespace Service

/-- The configured logger that takes the records of a logger: itself or the nearest above it. -/
def owner? (s : Service) (name : Text) : Option Text :=
  (s.hierarchy.lineage name).find? fun name => (s.loggers.get? name).isSome

/-- Whether a logger takes records of a level. For one that was not configured itself an answer
stands as it was first given. -/
def isEnabled (s : Service) (name : Text) (level : Int) : Bool :=
  if (s.loggers.get? name).isSome then configuredLevel ≤ level
  else (s.settled.get? (name, level)).getD
    (0 < level && (if (s.owner? name).isSome then configuredLevel else defaultLevel) ≤ level)

/-- Puts a logger in use and settles whether it takes records of a level. -/
def consult (s : Service) (name : Text) (level : Int) : Service :=
  let s := { s with hierarchy := s.hierarchy.enrol name }
  { s with settled := s.settled.put (name, level) (s.isEnabled name level) }

/-- Writes a line to standard error. A line that cannot be written is lost. -/
def showLine (s : Service) (line : Except Fault Text) : Service :=
  match line with
  | .ok line => { s with standardError := s.standardError ++ line ++ ['\n'] }
  | .error _ => s

def deliver (record : Record) (s : Service) (handler : Handler) : Service × Handler :=
  if record.level < handler.level then (s, handler)
  else match handler with
    | .file file =>
      let (disk, file) := file.write s.disk record.line.toOption
      ({ s with disk }, .file file)
    | .console => (s.showLine record.shortLine, handler)
    | .silent => (s, handler)

def deliverAll (record : Record) : Service → List Handler → Service × List Handler
  | s, [] => (s, [])
  | s, handler :: rest =>
    let (s, handler) := s.deliver record handler
    let (s, rest) := deliverAll record s rest
    (s, handler :: rest)

/-- Hands a record to the handlers of the logger `owner`. -/
def handOver (s : Service) (record : Record) (owner : Option Text) : Service :=
  let handlers := (owner.bind s.loggers.get?).getD []
  match handlers, owner with
  | handler :: rest, some owner =>
    let (s, handlers) := s.deliverAll record (handler :: rest)
    { s with loggers := s.loggers.put owner handlers }
  -- No handler at all: warnings and worse are not lost.
  | _, _ => if defaultLevel ≤ record.level then s.showLine record.bareLine else s

def report (s : Service) (name : Text) (event : Event) : Service :=
  let name := loggerName name
  let s := s.consult name event.level
  if s.isEnabled name event.level then
    s.handOver { event with logger := name, created := s.clock } (s.owner? name)
  else s

/-- The first key of an event that records have for themselves. -/
def reservedKey? (event : Event) : Option Text := (event.extra.map Prod.fst).find? (· ∈ ownKeys)

/-- Reports an event to a logger, or gives the key that keeps it from becoming a record. -/
def log (s : Service) (name : Text) (event : Event) : Service × Option Text :=
  match reservedKey? event with
  | some key =>
    let s := s.consult (loggerName name) event.level
    (s, if s.isEnabled (loggerName name) event.level then some key else none)
  | none => (s.report name event, none)

def streamOf : Handler → Option Nat
  | .file file => file.stream
  | _ => none

/-- Takes the handlers of a logger away and closes their streams. -/
def clear (s : Service) (name : Text) : Service :=
  let streams := ((s.loggers.get? name).getD []).filterMap streamOf
  { s with disk := streams.foldl OpenFiles.close s.disk, loggers := s.loggers.put name [] }

/-- The absolute path of a log file, without `..` in it. -/
def absolutePath (fs : FileSystem) (path : Path) : Path :=
  Path.read (Path.normalText (FileSystem.Location.path fs.working ++ path).text)

/-- Opens the log file of a configuration, and makes the directories above it. -/
def openFile (s : Service) (configuration : Configuration) (path : Path) :
    Service × Except FileSystem.Fault Handler :=
  match s.disk.files.makePath true Entry.newDirectoryMode path.parent with
  | (files, some fault) => ({ s with disk := s.disk.withFiles files }, .error fault)
  | (files, none) =>
    let s := { s with disk := s.disk.withFiles files }
    let path := absolutePath files path
    match s.disk.openAppend path with
    | .ok (number, disk) =>
      ({ s with disk }, .ok (.file {
        path
        level := levelOf configuration.level
        limit := configuration.limit
        backups := configuration.backups
        stream := some number }))
    | .error fault => (s, .error fault)

/-- The handlers of a configuration beside that of its file. -/
def otherHandlers (configuration : Configuration) : List Handler :=
  if configuration.verbose then [.console] else if configuration.file.isSome then [] else [.silent]

/-- Gives a logger the handlers of a configuration in place of those it has. If the file cannot be
opened it is left without any. Which levels are taken is asked anew from now on. -/
def configure (s : Service) (name : Text) (configuration : Configuration) :
    Service × Option FileSystem.Fault :=
  let name := loggerName name
  let s := { s with hierarchy := s.hierarchy.enrol name, settled := [] }.clear name
  match configuration.file with
  | none => ({ s with loggers := s.loggers.put name (otherHandlers configuration) }, none)
  | some path =>
    match s.openFile configuration path with
    | (s, .ok handler) =>
      ({ s with loggers := s.loggers.put name (handler :: otherHandlers configuration) }, none)
    | (s, .error fault) => (s, some fault)

end Service

end Log

end HelpText
