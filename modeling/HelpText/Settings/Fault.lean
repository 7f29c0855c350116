import HelpText.FileSystem.Fault
import HelpText.Path
import HelpText.Settings.Merge

/-!
Why settings are refused.
-/

namespace HelpText

namespace Settings

/-- What makes an invocation unusable. -/
inductive Fault where
  | fileMissing (path : Path)
  | fileUnreadable (path : Path) (fault : FileSystem.Fault)
  | fileMalformed (path : Path) (detail : Text)
  | merge (fault : MergeFault)
  | licenseNotText
  | outputNameEmpty
  | outputNameNotBare (name : Text)
  | extensionEmpty
  | logLevelEmpty
  | logFileNotText
  | notBoolean (value : Text)
  deriving DecidableEq, Repr

def Fault.message : Fault → Text
  | .fileMissing path => .of "Config file not found: " ++ path.text
  | .fileUnreadable path fault =>
    .of "Unable to read config file " ++ path.text ++ .of ": " ++ fault.text
  | .fileMalformed path detail =>
    .of "Failed to parse config TOML " ++ path.text ++ .of ": " ++ detail
  | .merge fault => fault.message
  | .licenseNotText => .of "generation.license must be a string when provided."
  | .outputNameEmpty => .of "output_name must be a non-empty file name."
  | .outputNameNotBare name => .of "output_name must be a bare file name, got '" ++ name ++ .of "'."
  | .extensionEmpty => .of "generation.extension must be a non-empty string."
  | .logLevelEmpty => .of "logging.level must be a non-empty string."
  | .logFileNotText => .of "logging.file must be a string when provided."
  | .notBoolean value => .of "Invalid boolean value '" ++ value ++ .of "'. Use true or false."

end Settings

end HelpText
