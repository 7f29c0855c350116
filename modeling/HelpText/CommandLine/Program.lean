import HelpText.CommandLine.Arguments
import HelpText.CommandLine.Help
import HelpText.Generation
import HelpText.Log.Service

/-!
One invocation of the program, whatever console it prints on: reads the arguments and the settings,
opens the log, carries the run out and says how it ended.
-/

namespace HelpText

namespace CommandLine

/-- How an invocation ends: with the status of a run, with that of its arguments, or interrupted. -/
inductive Ending where
  | ran (status : Nat)
  | answered (status : Nat)
  | interrupted (interruption : Interruption)
  deriving DecidableEq, Repr

def Ending.status : Ending → Nat
  | .ran status | .answered status => status
  | .interrupted _ => 1

/-- What an invocation writes to standard output, and how it ends. -/
structure Response where
  output : Text := []
  ending : Ending
  deriving DecidableEq, Repr

/-- What a console writes where it is given a text to print. -/
abbrev Console := Text → Text

/-- Carries a run out with a log that takes what it reports. -/
def surroundings : Generation.Surroundings Log.Service where
  files := fun s => s.disk.files
  withFiles := fun s files => { s with disk := s.disk.withFiles files }
  report := fun s event => s.report programName event

def answer (s : Log.Service) (output : Text) : Response × Log.Service :=
  ({ output, ending := .answered 0 }, s)

def refuse (s : Log.Service) (message : Text) : Response × Log.Service :=
  ({ ending := .answered 2 },
    { s with
      standardError :=
        s.standardError ++ usageText ++ programName ++ .of ": error: " ++ message ++ ['\n'] })

def interrupt (s : Log.Service) (interruption : Interruption) : Response × Log.Service :=
  ({ ending := .interrupted interruption }, s)

/-- Prints how a run ended: what it made, or why it failed. -/
def showOutcome (console : Console) (s : Log.Service) (outcome : Generation.Outcome) :
    Response × Log.Service :=
  match outcome with
  | .ok product =>
    ({ output := console (.of "Generated " ++ Text.decimal product.documents.length ++
        .of " document(s) -> " ++ product.target.text)
       ending := .ran (Generation.Outcome.exitStatus outcome) }, s)
  | .error failure =>
    ({ ending := .ran (Generation.Outcome.exitStatus outcome) },
      { s with
        standardError := s.standardError ++ console (.of "Error: " ++ failure.message) })

/-- The settings that the arguments ask for. Without a destination they hold an empty one, which is
not used. -/
def loadSettings (fs : FileSystem) (arguments : Arguments) : Except Stop Settings :=
  match arguments.choices.settingsFile with
  | some none => .error (.interruption (.missingPath .settingsFile))
  | asked =>
    Settings.load fs arguments.source (arguments.destination.getD { names := [] }) (asked.bind id)
      (FileSystem.Location.path fs.working) arguments.choices.overrides

def openLog (s : Log.Service) (arguments : Arguments) (settings : Settings) :
    Except Stop Unit × Log.Service :=
  match arguments.choices.logFile with
  | some none => (.error (.interruption (.missingPath .logFile)), s)
  | _ =>
    match s.configure programName {
      level := settings.logLevel
      verbose := arguments.choices.verbose
      file := settings.logFile } with
    | (s, none) => (.ok (), s)
    | (s, some fault) =>
      (.error (.ofFault (.logFile (settings.logFile.getD { names := [] })) fault), s)

/-- Reported before anything else. -/
def invoked : Log.Event where
  level := Log.debug
  template := .of "mdtogo CLI invoked"

/-- How a missing destination is shown. -/
def missingText : Text := .of "[]"

def stages (arguments : Arguments) (settings : Settings) :
    Generation.Stage Log.Service Generation.Product := do
  match arguments.destination with
  | some _ => Generation.stages surroundings settings
  | none =>
    let _ ← Generation.gather surroundings settings missingText
    throw (.interruption (.missingPath .destination))

def generate (console : Console) (s : Log.Service) (arguments : Arguments) (settings : Settings) :
    Response × Log.Service :=
  let action := stages arguments settings
  match Generation.conclude surroundings action (s.report programName invoked) with
  | (.ok outcome, s) => showOutcome console s outcome
  | (.error interruption, s) => interrupt s interruption

def invoke (console : Console) (words : List Text) (s : Log.Service) : Response × Log.Service :=
  match Arguments.read words with
  | .error .help => answer s helpText
  | .error .version => answer s versionText
  | .error (.refused fault) => refuse s fault.message
  | .ok arguments =>
    match loadSettings s.disk.files arguments with
    | .error (.failure failure) => refuse s failure.message
    | .error (.interruption interruption) => interrupt s interruption
    | .ok settings =>
      match openLog s arguments settings with
      | (.error (.failure failure), s) => showOutcome console s (.error failure)
      | (.error (.interruption interruption), s) => interrupt s interruption
      | (.ok (), s) => generate console s arguments settings

end CommandLine

end HelpText
