import HelpText.Failure

/-!
Writing the generated file into its directory, which is made if it is not there. As every text can
be encoded, nothing fails once the file is open but the change of its permission bits.
-/

namespace HelpText

namespace Output

/-- The permission bits of a directory made for the generated file, and of the file itself. -/
def directoryMode : Nat := 0o700

def fileMode : Nat := 0o600

/-- Makes the directory unless something stands there. A refusal by the system shows again when the
file is opened. -/
def prepare (fs : FileSystem) (directory : Path) : FileSystem × Except Stop Unit :=
  match fs.pathExists directory with
  | .error fault => (fs, .error (.interruption (.path fault)))
  | .ok true => (fs, .ok ())
  | .ok false =>
    match fs.makePath false directoryMode directory with
    | (fs, none) => (fs, .ok ())
    | (fs, some fault) =>
      (fs, if fault.isRefusal then .ok () else .error (.interruption (.path fault)))

/-- Gives the file at `target` this text. A file that was not there gets the permission bits `mode`,
where the system permits that. -/
def put (fs : FileSystem) (target : Path) (mode : Nat) (text : Text) :
    FileSystem × Except Stop Path :=
  match fs.pathExists target with
  | .error fault => (fs, .error (.interruption (.path fault)))
  | .ok existed =>
    match fs.writeFile target (Utf8.encode text) with
    | .error fault => (fs, .error (.ofFault (.output target) fault))
    | .ok written =>
      -- Old files keep their permissions.
      if existed then (written, .ok target)
      else match written.setMode target mode with
        | .ok finished => (finished, .ok target)
        | .error fault =>
          (written,
            if fault.isPermission then .ok target else .error (.interruption (.path fault)))

/-- Writes `text` to the file `name` of `directory`, and gives its path. -/
def write (fs : FileSystem) (directory : Path) (name : Text) (mode : Nat) (text : Text) :
    FileSystem × Except Stop Path :=
  match prepare fs directory with
  | (fs, .ok ()) => put fs (directory ++ Path.read name) mode text
  | (fs, .error stop) => (fs, .error stop)

end Output

end HelpText
