import HelpText.Path
import HelpText.Table

/-!
File systems as values: entries at locations, the working directory, what `~` stands for, and the
order in which a directory is listed. Main statements: what is found at a location after an entry
was put somewhere, or taken away.

Not modelled: what is neither a regular file nor a directory nor a link (a device such as
`/dev/stdout`, a pipe, a socket), names that are not UTF-8, hard links, access control lists, file
systems without permission bits of their own, and other processes. Permission bits are kept and
shown, but hold the process back nowhere, as they do not hold back a superuser. The file creation
mask is 022.
-/

namespace HelpText

/-- Where an entry stands: the names from the root down. -/
abbrev Location := List Text

instance : LawfulBEq Location := inferInstance

/-- What can stand at a location. -/
inductive Entry where
  | file (content : List UInt8) (mode : Nat)
  | directory (mode : Nat)
  | link (target : Text)
  deriving DecidableEq, Repr

/-- The permission bits of a new file and of a new directory. -/
def Entry.newFileMode : Nat := 0o644

def Entry.newDirectoryMode : Nat := 0o755

/-- The wording of a TOML library where none is given. -/
def Settings.malformedDetail : Text := .of "not a valid TOML 1.0 document"

/-- What a process finds without its doing: the locations whose permission bits stay those that they
were made with, since the system refuses to change them, and how its TOML library words the refusal
of a text. -/
structure Platform where
  fixesBits : Location → Bool := fun _ => false
  tomlRefusal : Text → Text := fun _ => Settings.malformedDetail

/-- A file system as a process sees it, with its own home directory and those of other users. A
directory may be listed in any order of its names. -/
structure FileSystem where
  entries : Table Location Entry := []
  working : Location := []
  home : Path
  homeOf : Text → Option Path := fun _ => none
  platform : Platform := {}
  listed : List Text → List Text := id
  listed_perm : ∀ names, (listed names).Perm names := by exact List.Perm.refl

namespace FileSystem

/-- What stands at a location. The root is a directory that is always there. -/
def entryAt (fs : FileSystem) (location : Location) : Option Entry :=
  if location = [] then some (.directory Entry.newDirectoryMode) else fs.entries.get? location

def put (fs : FileSystem) (location : Location) (entry : Entry) : FileSystem :=
  { fs with entries := fs.entries.put location entry }

/-- Putting an entry changes what is found at its own location and nowhere else. -/
theorem entryAt_put (fs : FileSystem) (location other : Location) (entry : Entry) :
    (fs.put location entry).entryAt other =
      if other = [] then some (.directory Entry.newDirectoryMode)
      else if other = location then some entry else fs.entryAt other := by
  by_cases h : other = [] <;> simp [entryAt, put, h, Table.get?_put]

/-- The file system without what stands at `location` and below it. -/
def erase (fs : FileSystem) (location : Location) : FileSystem :=
  { fs with entries := fs.entries.keepKeys fun other => !location.isPrefixOf other }

/-- Erasing takes away a location and what is below it, and nothing else. -/
theorem entryAt_erase (fs : FileSystem) (location other : Location) :
    (fs.erase location).entryAt other =
      if other = [] then some (.directory Entry.newDirectoryMode)
      else if location.isPrefixOf other then none else fs.entryAt other := by
  by_cases h : other = []
  · simp [entryAt, h]
  · by_cases hp : location.isPrefixOf other = true
    · simp only [entryAt, erase, h, Table.get?_keepKeys, hp]; rfl
    · simp only [entryAt, erase, h, Table.get?_keepKeys, hp]; rfl

/-- The file system in which what stood at `source` and below it stands at `target` and below it. -/
def move (fs : FileSystem) (source target : Location) : FileSystem :=
  { fs with
    entries := (fs.erase target).entries.map fun item =>
      if source.isPrefixOf item.1 then (target ++ item.1.drop source.length, item.2) else item }

/-- The names in a directory, in the order in which they are listed. -/
def namesIn (fs : FileSystem) (location : Location) : List Text :=
  fs.listed (fs.entries.filterMap fun item =>
    if item.1 ≠ [] ∧ item.1.dropLast = location then item.1.getLast? else none)

end FileSystem

end HelpText
