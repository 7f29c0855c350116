import HelpText.CommandLine.Invocation
import Std.Time.DateTime.Timestamp

/-!
The program. What the arguments name is looked up on the machine, the invocation is carried out on
what was found, and what it changed is put back.
-/

namespace HelpText

namespace Machine

/-- What is known of the machine's files. -/
abbrev Known := Table Location Entry

def spelling (location : Location) : String := (FileSystem.Location.path location).text.toString

/-- What stands at a location, with the content of a file if that is wanted. A link is spelt by
where it leads in the end. -/
def look (location : Location) (withContent : Bool) : IO (Option Entry) := do
  let place := (← IO.currentDir) / spelling location
  try
    match (← place.symlinkMetadata).type with
    | .dir => pure (some (.directory Entry.newDirectoryMode))
    | .file =>
      let content ← if withContent then IO.FS.readBinFile place else pure .empty
      pure (some (.file content.toList Entry.newFileMode))
    | .symlink => pure (some (.link (Text.of (← IO.FS.realPath place).toString)))
    | .other => pure none
  catch _ => pure none

def learn (known : Known) (location : Location) (withContent : Bool) : IO Known := do
  match ← look location withContent with
  | some entry => pure (known.put location entry)
  | none => pure known

/-- Learns what stands on the way to a location that is reached without links. -/
def learnAll (known : Known) (location : Location) : IO Known :=
  (List.range location.length).foldlM
    (fun known n => learn known (location.take (n + 1)) true) known

/-- Goes on from a location by one name of a path, through a link if there is one. -/
def step (withContent : Bool) (state : Known × Location) (name : Text) : IO (Known × Location) := do
  let (known, here) := state
  if name = ['.', '.'] then return (known, here.dropLast)
  let location := here ++ [name]
  let known ← learn known location withContent
  match known.get? location with
  | some (.link target) =>
    let names := (Path.read target).names
    return (← learnAll known names, names)
  | _ => return (known, location)

/-- Learns what stands on the way to a path, and where it leads. -/
def walk (working : Location) (known : Known) (path : Path) : IO (Known × Location) :=
  path.names.foldlM (step true) (known, if path.root = [] then working else [])

/-- Learns what a directory holds; `isWanted` picks the names of the files to be read. -/
def learnDirectory (isWanted : Text → Bool) (known : Known) (location : Location) : IO Known := do
  let place := (← IO.currentDir) / spelling location
  try
    (← place.readDir).toList.foldlM (fun known entry => do
      let name := Text.of entry.fileName
      let (known, _) ← step (isWanted name) (known, location) name
      pure known) known
  catch _ => pure known

def rights (bits : Nat) : IO.AccessRight where
  read := bits / 4 % 2 = 1
  write := bits / 2 % 2 = 1
  execution := bits % 2 = 1

def restore (old : Known) (item : Location × Entry) : IO Unit := do
  let (location, entry) := item
  let place := (← IO.currentDir) / spelling location
  let isNew := (old.get? location).isNone
  let setMode (mode : Nat) : IO Unit :=
    IO.setAccessRights place ⟨rights (mode / 64), rights (mode / 8), rights mode⟩
  match entry with
  | .directory mode =>
    if isNew then
      IO.FS.createDir place
      setMode mode
  | .file content mode =>
    if old.get? location != some entry then
      IO.FS.writeBinFile place ⟨content.toArray⟩
      if isNew then setMode mode
  | .link _ => pure ()

def discard (new : Known) (item : Location × Entry) : IO Unit := do
  match item.2, new.get? item.1 with
  | .directory _, _ | _, some _ => pure ()
  | _, none => IO.FS.removeFile ((← IO.currentDir) / spelling item.1)

def putBack (old new : Known) : IO Unit := do
  new.forM (restore old)
  old.forM (discard new)

def clock : IO Binary64 := do
  let now ← Std.Time.Timestamp.now
  let nanoseconds : Int := now.toNanosecondsSinceUnixEpoch.val
  pure (.ofQuotient (nanoseconds < 0) nanoseconds.natAbs 1000000000)

/-- The paths that a run with these settings reads or writes, its source directory apart. -/
def pathsOf (fs : FileSystem) (settings : Settings) : List Path :=
  let target := settings.destination ++ Path.read settings.outputName
  let license := settings.license.map fun choice => Path.read choice
  let log := settings.logFile.toList.flatMap fun path =>
    let path := Log.Service.absolutePath fs path
    path :: (List.range 3).map fun n => Log.RotatingFile.backupPath path (n + 1)
  target :: license.toList.filterMap (fun path => (fs.expandHome path).toOption) ++ log

def survey (words : List Text) (fs : FileSystem) : IO FileSystem := do
  match CommandLine.Arguments.read words with
  | .error _ => pure fs
  | .ok arguments =>
    let base := FileSystem.Location.path fs.working
    let usual := base ++ { names := [Settings.fileName] }
    let asked := (arguments.choices.settingsFile.bind id).getD usual
    let (known, _) ← walk fs.working fs.entries ((fs.expandHome asked).toOption.getD asked)
    let fs := { fs with entries := known }
    match CommandLine.loadSettings fs arguments with
    | .error _ => pure fs
    | .ok settings =>
      let (known, source) ← walk fs.working fs.entries settings.source
      let known ← learnDirectory (fun name => extensionOf name = settings.extension) known source
      let known ← (pathsOf fs settings).foldlM (fun known path => do
        let (known, _) ← walk fs.working known path
        pure known) known
      pure { fs with entries := known }

def invoke (words : List Text) : IO UInt32 := do
  let working := (Path.read (Text.of (← IO.currentDir).toString)).names
  let home := Path.read (Text.of ((← IO.getEnv "HOME").getD "/"))
  let fs ← survey words { entries := ← learnAll [] working, working, home }
  let (response, service) := CommandLine.run words { disk := { files := fs }, clock := ← clock }
  putBack fs.entries service.disk.files.entries
  (← IO.getStderr).putStr service.standardError.toString
  (← IO.getStdout).putStr response.output.toString
  match response.ending with
  | .interrupted interruption => (← IO.getStderr).putStrLn interruption.message.toString
  | _ => pure ()
  pure (UInt32.ofNat response.ending.status)

end Machine

end HelpText

def main (words : List String) : IO UInt32 := HelpText.Machine.invoke (words.map HelpText.Text.of)
