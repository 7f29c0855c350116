import HelpText.FileSystem.Resolve

/-!
Operations on a file system by path. Each says what it gives or why it fails, and those that change
something give the changed file system. Permission bits stop none of them; what can be refused is a
change of the bits themselves.
-/

namespace HelpText

namespace FileSystem

/-- The entry a path leads to, links followed. -/
def entry? (fs : FileSystem) (path : Path) : Except Fault Entry :=
  match fs.resolve true path with
  | .ok (.occupied _ entry) => .ok entry
  | .ok (.free ..) => .error (.system .notFound path.text)
  | .error fault => .error fault

/-- Whether the path leads to an entry with the property `p`; a fault that says nothing about that
is passed on. -/
def test (fs : FileSystem) (p : Entry → Bool) (path : Path) : Except Fault Bool :=
  match fs.entry? path with
  | .ok entry => .ok (p entry)
  | .error fault => if fault.isDoubtful then .error fault else .ok false

def pathExists (fs : FileSystem) (path : Path) : Except Fault Bool := fs.test (fun _ => true) path

def isDirectory : Entry → Bool
  | .directory _ => true
  | _ => false

def isFile : Entry → Bool
  | .file .. => true
  | _ => false

def readFile (fs : FileSystem) (path : Path) : Except Fault (List UInt8) :=
  match fs.entry? path with
  | .ok (.file content _) => .ok content
  | .ok _ => .error (.system .isDirectory path.text)
  | .error fault => .error fault

/-- The path of a directory's entry as faults show it: the directory itself is spelt out. -/
def entryText (directory : Path) (name : Text) : Text :=
  let above := directory.text
  if above.getLast? = some '/' then above ++ name else above ++ '/' :: name

/-- Whether the entry `name` of a directory at `location` is a regular file, directly or through
links. A link that leads nowhere is none; one that cannot be followed is a fault. -/
def entryIsFile (fs : FileSystem) (location : Location) (directory : Path) (name : Text) :
    Except Fault Bool :=
  match fs.entryAt (location ++ [name]) with
  | some (.link _) =>
    match fs.resolve true (directory ++ { names := [name] }) with
    | .ok (.occupied _ entry) => .ok (isFile entry)
    | .ok (.free ..) | .error (.system .notFound _) => .ok false
    | .error (.system cause _) => .error (.system cause (entryText directory name))
    | .error fault => .error fault
  | some entry => .ok (isFile entry)
  | none => .ok false

/-- Keeps the names that `p` accepts, up to the first fault. -/
def keepNames (p : Text → Except Fault Bool) : List Text → Except Fault (List Text)
  | [] => .ok []
  | name :: rest =>
    match p name with
    | .ok keep => (keepNames p rest).map fun kept => if keep then name :: kept else kept
    | .error fault => .error fault

/-- The regular files directly in a directory, in the order of its listing. -/
def listFiles (fs : FileSystem) (directory : Path) : Except Fault (List Path) :=
  match fs.resolve true directory with
  | .ok (.occupied location (.directory _)) =>
    (keepNames (fs.entryIsFile location directory) (fs.namesIn location)).map fun names =>
      names.map fun name => directory ++ { names := [name] }
  | .ok (.occupied _ _) => .error (.system .notDirectory directory.text)
  | .ok (.free ..) => .error (.system .notFound directory.text)
  | .error fault => .error fault

/-- The bit of a directory by which what is made in it belongs to its group. -/
def groupBit : Nat := 0o2000

/-- The permission bits that a new directory takes over from the one above it. -/
def inheritedBits (fs : FileSystem) (location : Location) : Nat :=
  match fs.entryAt location.dropLast with
  | some (.directory above) => above &&& groupBit
  | _ => 0

def makeDirectory (fs : FileSystem) (mode : Nat) (path : Path) : Except Fault FileSystem :=
  match fs.resolve false path with
  | .ok (.occupied _ _) => .error (.system .exists path.text)
  | .ok (.free location _) =>
    .ok (fs.put location (.directory (mode ||| fs.inheritedBits location)))
  | .error fault => .error fault

/-- A refusal to make a directory is no fault where `existOk` is set and the directory stands. -/
def unlessDirectory (fs : FileSystem) (existOk : Bool) (path : Path) (fault : Fault) :
    Option Fault :=
  if existOk && fault.isRefusal then
    match fs.test isDirectory path with
    | .ok true => none
    | .ok false => some fault
    | .error other => some other
  else some fault

/-- Makes the directory with these names, latest first, and those above it that are missing. What
was made before a fault stays. -/
def makeDirectories (root : Text) : (existOk : Bool) → (mode : Nat) → List Text → FileSystem →
    FileSystem × Option Fault
  | existOk, mode, [], fs =>
    let path : Path := { root, names := [] }
    match fs.makeDirectory mode path with
    | .ok made => (made, none)
    | .error fault => (fs, fs.unlessDirectory existOk path fault)
  | existOk, mode, last :: above, fs =>
    let path : Path := { root, names := (last :: above).reverse }
    match fs.makeDirectory mode path with
    | .ok made => (made, none)
    | .error (.system .notFound _) =>
      -- Those above get the usual permissions, whatever is asked for the last.
      match makeDirectories root true Entry.newDirectoryMode above fs with
      | (made, some fault) => (made, some fault)
      | (made, none) =>
        match made.makeDirectory mode path with
        | .ok whole => (whole, none)
        | .error (.system .notFound shown) => (made, some (.system .notFound shown))
        | .error fault => (made, made.unlessDirectory existOk path fault)
    | .error fault => (fs, fs.unlessDirectory existOk path fault)

/-- Makes a directory and those above it that are missing. -/
def makePath (fs : FileSystem) (existOk : Bool) (mode : Nat) (path : Path) :
    FileSystem × Option Fault :=
  makeDirectories path.root existOk mode path.names.reverse fs

/-- Gives the file a path leads to this content; a new file gets the mode of new files. -/
def writeFile (fs : FileSystem) (path : Path) (content : List UInt8) : Except Fault FileSystem :=
  match fs.resolve true path with
  | .ok (.occupied location (.file _ mode)) => .ok (fs.put location (.file content mode))
  | .ok (.occupied _ _) => .error (.system .isDirectory path.text)
  | .ok (.free _ true) => .error (.system .isDirectory path.text)
  | .ok (.free location false) => .ok (fs.put location (.file content Entry.newFileMode))
  | .error fault => .error fault

/-- An entry with other permission bits. A link has none of its own. -/
def Entry.withMode (mode : Nat) : Entry → Entry
  | .file content _ => .file content mode
  | .directory _ => .directory mode
  | .link target => .link target

/-- The part of a number that permission bits are taken from: the lowest twelve bits. -/
def maskBits (mode : Nat) : Nat := mode % 0o10000

def setMode (fs : FileSystem) (path : Path) (mode : Nat) : Except Fault FileSystem :=
  match fs.resolve true path with
  | .ok (.occupied location entry) =>
    if fs.platform.fixesBits location then .error (.system .notPermitted path.text)
    else .ok (fs.put location (Entry.withMode (maskBits mode) entry))
  | .ok (.free ..) => .error (.system .notFound path.text)
  | .error fault => .error fault

/-- The path that a leading `~` makes of `path`: below one's own home directory, or below that of
the user it names. -/
def expandHome (fs : FileSystem) (path : Path) : Except Fault Path :=
  match path.root, path.names with
  | [], ('~' :: user) :: rest =>
    if user.contains '\x00' then .error .nullByte
    else match if user = [] then some fs.home else fs.homeOf user with
      | some home => .ok { home with names := home.names ++ rest }
      | none => .error .unknownHome
  | _, _ => .ok path

def Location.path (location : Location) : Path := { root := ['/'], names := location }

end FileSystem

end HelpText
