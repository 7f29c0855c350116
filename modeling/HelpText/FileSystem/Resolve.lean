import HelpText.FileSystem.Basic
import HelpText.FileSystem.Fault
import HelpText.Text.Utf8

/-!
Following a path through the file system, name by name. Links are followed on the way, at the end
only on request, and no more than forty in all.
-/

namespace HelpText

namespace FileSystem

/-- Where a path leads: to an entry, or to a free place in a directory that exists. A place that was
reached by a link with a slash at its end is `slashed`: no file can be made there. -/
inductive Place where
  | occupied (location : Location) (entry : Entry)
  | free (location : Location) (slashed : Bool)
  deriving DecidableEq, Repr

/-- The longest name, in bytes. -/
def maxNameLength : Nat := 255

/-- The longest path, in bytes. -/
def maxPathLength : Nat := 4095

/-- How many links one path may lead through. -/
def maxLinks : Nat := 40

/-- Follows `pieces` from the directory `here`; `throughLink` says how to go on from a link. -/
def followPieces (fs : FileSystem) (followLast : Bool)
    (throughLink : Location → List Text → Except Cause Place) :
    Location → List Text → Except Cause Place
  | here, [] =>
    match fs.entryAt here with
    | some entry => .ok (.occupied here entry)
    | none => .error .notFound
  | here, piece :: rest =>
    if !Path.isName piece then followPieces fs followLast throughLink here rest
    else if piece = ['.', '.'] then followPieces fs followLast throughLink here.dropLast rest
    else if (Utf8.encode piece).length > maxNameLength then .error .nameTooLong
    else
      let location := here ++ [piece]
      match fs.entryAt location with
      | none =>
        -- Only slashes may follow the name of something yet to be made.
        if rest.all List.isEmpty then .ok (.free location (rest != [])) else .error .notFound
      | some (.directory _) => followPieces fs followLast throughLink location rest
      | some (.file content mode) =>
        if rest = [] then .ok (.occupied location (.file content mode)) else .error .notDirectory
      | some (.link target) =>
        if rest = [] && !followLast then .ok (.occupied location (.link target))
        else
          -- A relative target is seen from the directory in which the link stands.
          let start := if Path.rootOf target = [] then here else []
          throughLink start (Text.cut '/' target ++ rest)

/-- Follows `pieces` from `here` through at most so many links. -/
def follow (fs : FileSystem) (followLast : Bool) : Nat → Location → List Text → Except Cause Place
  | 0 => followPieces fs followLast fun _ _ => .error .tooManyLinks
  | links + 1 => followPieces fs followLast (follow fs followLast links)

@[simp] theorem mapError_ok {ε ε' α : Type} (f : ε → ε') (a : α) :
    (Except.ok a : Except ε α).mapError f = .ok a := rfl

@[simp] theorem mapError_error {ε ε' α : Type} (f : ε → ε') (fault : ε) :
    (Except.error fault : Except ε α).mapError f = .error (f fault) := rfl

/-- Where a path leads. `followLast` says whether a link at its end is followed. -/
def resolve (fs : FileSystem) (followLast : Bool) (path : Path) : Except Fault Place :=
  if path.text.contains '\x00' then .error .nullByte
  else if (Utf8.encode path.text).length > maxPathLength then
    .error (.system .nameTooLong path.text)
  else
    (fs.follow followLast maxLinks (if path.root = [] then fs.working else []) path.names).mapError
      (.system · path.text)

end FileSystem

end HelpText
