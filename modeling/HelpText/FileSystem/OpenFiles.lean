import HelpText.FileSystem.Access

/-!
Files kept open for appending. A stream belongs to a file, not to a path: it follows the file when
that is renamed, and keeps it in being, without a place, when it is removed.
-/

namespace HelpText

/-- A stream that appends to a file in its place, or to one of those that have none any more. -/
inductive Stream where
  | attached (location : Location)
  | detached (orphan : Nat)
  | closed
  deriving DecidableEq, Repr

/-- A file system with the streams opened on it so far, each known by its position. Of the files
that were removed while they were open only the sizes are kept. -/
structure OpenFiles where
  files : FileSystem
  streams : List Stream := []
  orphans : List Nat := []

namespace FileSystem

def sizeAt (fs : FileSystem) (location : Location) : Nat :=
  match fs.entryAt location with
  | some (.file content _) => content.length
  | _ => 0

def appendAt (fs : FileSystem) (location : Location) (content : List UInt8) : FileSystem :=
  match fs.entryAt location with
  | some (.file old mode) => fs.put location (.file (old ++ content) mode)
  | _ => fs

/-- Whether a path leads to an entry with the property `p`; any fault means that it does not. -/
def leadsTo (fs : FileSystem) (p : Entry → Bool) (path : Path) : Bool :=
  match fs.entry? path with
  | .ok entry => p entry
  | .error _ => false

end FileSystem

/-- The place of an open file at `location` or below it. -/
def Stream.placeBelow (location : Location) : Stream → Option Location
  | .attached here => if location.isPrefixOf here then some here else none
  | _ => none

/-- The stream after the files at `lost` were removed, the first of which is the orphan `first`. -/
def Stream.afterErase (lost : List Location) (first : Nat) : Stream → Stream
  | .attached here =>
    if here ∈ lost then .detached (first + lost.idxOf here) else .attached here
  | stream => stream

/-- The stream after what stood at `source` and below it was moved to `target`. -/
def Stream.afterMove (source target : Location) : Stream → Stream
  | .attached here =>
    .attached (if source.isPrefixOf here then target ++ here.drop source.length else here)
  | stream => stream

namespace OpenFiles

open FileSystem (Fault)

def stream (o : OpenFiles) (number : Nat) : Stream := o.streams.getD number .closed

/-- The open files with another file system in which everything stands where it stood. -/
def withFiles (o : OpenFiles) (files : FileSystem) : OpenFiles := { o with files }

/-- Opens the file a path leads to for appending, and makes it if it is not there. -/
def openAppend (o : OpenFiles) (path : Path) : Except Fault (Nat × OpenFiles) :=
  match o.files.resolve true path with
  | .ok (.occupied location (.file ..)) =>
    .ok (o.streams.length, { o with streams := o.streams ++ [.attached location] })
  | .ok (.occupied _ _) => .error (.system .isDirectory path.text)
  | .ok (.free _ true) => .error (.system .isDirectory path.text)
  | .ok (.free location false) =>
    .ok (o.streams.length, {
      o with
      files := o.files.put location (.file [] Entry.newFileMode)
      streams := o.streams ++ [.attached location] })
  | .error fault => .error fault

def size (o : OpenFiles) (number : Nat) : Nat :=
  match o.stream number with
  | .attached location => o.files.sizeAt location
  | .detached orphan => o.orphans.getD orphan 0
  | .closed => 0

def append (o : OpenFiles) (number : Nat) (content : List UInt8) : OpenFiles :=
  match o.stream number with
  | .attached location => { o with files := o.files.appendAt location content }
  | .detached orphan =>
    { o with orphans := o.orphans.set orphan (o.orphans.getD orphan 0 + content.length) }
  | .closed => o

def close (o : OpenFiles) (number : Nat) : OpenFiles :=
  { o with streams := o.streams.set number .closed }

/-- The places of the open files at a location and below it. -/
def openBelow (o : OpenFiles) (location : Location) : List Location :=
  (o.streams.filterMap (Stream.placeBelow location)).eraseDups

def erase (o : OpenFiles) (location : Location) : OpenFiles :=
  let lost := o.openBelow location
  { files := o.files.erase location
    streams := o.streams.map (Stream.afterErase lost o.orphans.length)
    orphans := o.orphans ++ lost.map o.files.sizeAt }

/-- Moves what stands at `source` and below it to `target`, over what stood there. -/
def move (o : OpenFiles) (source target : Location) : OpenFiles :=
  let cleared := o.erase target
  { cleared with
    files := o.files.move source target
    streams := cleared.streams.map (Stream.afterMove source target) }

def remove (o : OpenFiles) (path : Path) : Except Fault OpenFiles :=
  match o.files.resolve false path with
  | .ok (.occupied _ (.directory _)) => .error (.system .isDirectory path.text)
  | .ok (.occupied location _) => .ok (o.erase location)
  | .ok (.free ..) => .error (.system .notFound path.text)
  | .error fault => .error fault

/-- Gives an entry another path. It takes the place of a file or link there, but of no directory,
and a directory takes no place at all. -/
def rename (o : OpenFiles) (source target : Path) : Except Fault OpenFiles :=
  match o.files.resolve false source, o.files.resolve false target with
  | .ok (.occupied here _), .ok (.free there _) => .ok (o.move here there)
  | .ok (.occupied here entry), .ok (.occupied there other) =>
    -- Onto itself, nothing moves.
    if here = there then .ok o
    else if FileSystem.isDirectory other then .error (.system .isDirectory target.text)
    else if FileSystem.isDirectory entry then .error (.system .notDirectory target.text)
    else .ok (o.move here there)
  | .ok (.free ..), _ => .error (.system .notFound source.text)
  | .error fault, _ | _, .error fault => .error fault

end OpenFiles

end HelpText
