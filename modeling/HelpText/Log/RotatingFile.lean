import HelpText.FileSystem.OpenFiles
import HelpText.Log.Record

/-!
Log files that are rotated: before a line would bring the file to its size limit, the file becomes
its own first backup, the first the second, and so on; the last is given up.
-/

namespace HelpText

namespace Log

/-- A log file. Without a limit, or without backups, it only grows. `stream` is the number of the
stream that appends to it. -/
structure RotatingFile where
  path : Path
  level : Int
  limit : Nat
  backups : Nat
  stream : Option Nat := none
  deriving DecidableEq, Repr

namespace RotatingFile

/-- The path of a backup of the file at `path`; the file itself is no backup. -/
def backupPath (path : Path) (number : Nat) : Path :=
  { path with names := path.names.dropLast ++ [path.name ++ '.' :: Text.decimal number] }

/-- The open files after a step, and whether the step went through. -/
abbrev Step := OpenFiles × Bool

/-- The result of an operation as a step that changes nothing when it fails. -/
def attempt (o : OpenFiles) : Except FileSystem.Fault OpenFiles → Step
  | .ok changed => (changed, true)
  | .error _ => (o, false)

def andThen (step : Step) (next : OpenFiles → Step) : Step :=
  if step.2 then next step.1 else step

/-- Whether a path leads anywhere. -/
def isTaken (o : OpenFiles) (path : Path) : Bool := o.files.leadsTo (fun _ => true) path

/-- Moves the entry at `source`, if there is one, to `target`, over what stood there. -/
def replace (o : OpenFiles) (source target : Path) : Step :=
  if isTaken o source then
    andThen (if isTaken o target then attempt o (o.remove target) else (o, true)) fun o =>
      attempt o (o.rename source target)
  else (o, true)

/-- Moves every backup from the one with this number down to the first up by one. -/
def shiftBackups (path : Path) : Nat → OpenFiles → Step
  | 0, o => (o, true)
  | number + 1, o =>
    andThen (replace o (backupPath path (number + 1)) (backupPath path (number + 2)))
      (shiftBackups path number)

/-- The first backup makes room even if there is nothing to take its place. -/
def makeFirstBackup (path : Path) (o : OpenFiles) : Step :=
  let first := backupPath path 1
  andThen (if isTaken o first then attempt o (o.remove first) else (o, true)) fun o =>
    if isTaken o path then attempt o (o.rename path first) else (o, true)

/-- Makes the file its own first backup and every backup the next one. -/
def rotate (path : Path) (backups : Nat) (o : OpenFiles) : Step :=
  if backups = 0 then (o, true)
  else andThen (shiftBackups path (backups - 1) o) (makeFirstBackup path)

def opened (file : RotatingFile) (o : OpenFiles) : OpenFiles × RotatingFile :=
  match file.stream with
  | some _ => (o, file)
  | none =>
    match o.openAppend file.path with
    | .ok (number, o) => (o, { file with stream := some number })
    | .error _ => (o, file)

/-- Whether the path leads to something that is no file, which is never rotated. -/
def isIrregular (file : RotatingFile) (o : OpenFiles) : Bool :=
  isTaken o file.path && !o.files.leadsTo FileSystem.isFile file.path

/-- Whether a line of this length, with its newline, would bring the file to its limit. -/
def isFull (file : RotatingFile) (o : OpenFiles) (number length : Nat) : Bool :=
  file.limit > 0 && o.size number + (length + 1) ≥ file.limit

/-- Closes the stream, rotates the file, and opens the stream again if that went through. -/
def renew (file : RotatingFile) (o : OpenFiles) (number : Nat) : OpenFiles × RotatingFile × Bool :=
  let shut := { file with stream := none }
  match rotate file.path file.backups (o.close number) with
  | (o, false) => (o, shut, false)
  | (o, true) =>
    let (o, file) := shut.opened o
    (o, file, file.stream.isSome)

/-- Rotates the file if this line needs it. `none` stands for a line that cannot be written. -/
def prepare (file : RotatingFile) (o : OpenFiles) (line : Option Text) :
    OpenFiles × RotatingFile × Bool :=
  if file.isIrregular o then (o, file, true)
  else
    let (o, file) := file.opened o
    match file.stream, line with
    | none, _ => (o, file, false)
    | some number, some line =>
      -- The limit is reached already when the line would end exactly at it.
      if file.isFull o number line.length then file.renew o number else (o, file, true)
    | some _, none => (o, file, file.limit = 0)

/-- Writes a line behind the others. What goes wrong on the way loses the line. -/
def write (file : RotatingFile) (o : OpenFiles) (line : Option Text) : OpenFiles × RotatingFile :=
  match file.prepare o line with
  | (o, file, false) => (o, file)
  | (o, file, true) =>
    let (o, file) := file.opened o
    match file.stream, line with
    | some number, some line => (o.append number (Utf8.encode (line ++ ['\n'])), file)
    | _, _ => (o, file)

end RotatingFile

end Log

end HelpText
