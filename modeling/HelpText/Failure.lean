import HelpText.FileSystem.ReadText
import HelpText.Settings.Fault

/-!
What ends a run early. A failure is reported as the run's result; an interruption is not foreseen by
any stage and passes through all of them.
-/

namespace HelpText

/-- A foreseen failure, with its cause. -/
inductive Failure where
  | settings (fault : Settings.Fault)
  | sourceDirectory (directory : Path) (fault : FileSystem.Fault)
  | sourceFile (path : Path) (fault : FileSystem.Fault)
  | sourceText (path : Path) (fault : Utf8.Fault)
  | duplicateNames (groups : List (Text × List Text))
  | license (path : Path) (fault : FileSystem.ReadFault)
  | output (target : Path) (fault : FileSystem.Fault)
  | logFile (path : Path) (fault : FileSystem.Fault)
  deriving DecidableEq, Repr

/-- The broad classes of failures. -/
inductive Category where
  | usage
  | io
  | scan
  | collision
  deriving DecidableEq, Repr

def Category.word : Category → Text
  | .usage => .of "usage"
  | .io => .of "io"
  | .scan => .of "scan"
  | .collision => .of "collision"

def Failure.category : Failure → Category
  | .settings _ => .usage
  | .sourceDirectory .. | .sourceFile .. | .license .. | .output .. | .logFile .. => .io
  | .sourceText .. => .scan
  | .duplicateNames _ => .collision

def Failure.message : Failure → Text
  | .settings fault => fault.message
  | .sourceDirectory directory fault =>
    .of "Unable to list source directory " ++ directory.text ++ .of ": " ++ fault.text
  | .sourceFile path fault => .of "Unable to read " ++ path.text ++ .of ": " ++ fault.text
  | .sourceText path fault =>
    .of "Unable to decode " ++ path.text ++ .of " as UTF-8: " ++ fault.text
  | .duplicateNames groups =>
    .of "Duplicate document names: " ++ Text.join (.of "; ")
      (groups.map fun (name, files) => name ++ .of ": " ++ Text.join (.of ", ") files)
  | .license path fault =>
    .of "Unable to read license file " ++ path.text ++ .of ": " ++ fault.text
  | .output target fault => .of "Unable to write " ++ target.text ++ .of ": " ++ fault.text
  | .logFile path fault => .of "Unable to open log file " ++ path.text ++ .of ": " ++ fault.text

/-- What a path is wanted for. -/
inductive PathUse where
  | destination
  | settingsFile
  | logFile
  deriving DecidableEq, Repr

/-- What no stage foresees. A path is missing where an invocation gives the word for "no more flags"
in its place. -/
inductive Interruption where
  | path (fault : FileSystem.Fault)
  | encoding (fault : Utf8.Fault)
  | longInteger (digits : Nat)
  | missingPath (use : PathUse)
  deriving DecidableEq, Repr

def Interruption.message : Interruption → Text
  | .path fault => fault.text
  | .encoding fault => fault.text
  | .longInteger digits =>
    .of "Exceeds the limit (4300 digits) for integer string conversion: value has " ++
      Text.decimal digits ++
      .of " digits; use sys.set_int_max_str_digits() to increase the limit"
  | .missingPath .destination => .of "expected str, bytes or os.PathLike object, not list"
  | .missingPath .settingsFile => .of "'list' object has no attribute 'expanduser'"
  | .missingPath .logFile => .of "'list' object has no attribute 'parent'"

/-- Why something stopped. -/
inductive Stop where
  | failure (failure : Failure)
  | interruption (interruption : Interruption)
  deriving DecidableEq, Repr

/-- A refusal by the system is a foreseen failure; any other fault of a path interrupts. -/
def Stop.ofFault (foreseen : FileSystem.Fault → Failure) (fault : FileSystem.Fault) : Stop :=
  if fault.isRefusal then .failure (foreseen fault) else .interruption (.path fault)

end HelpText
