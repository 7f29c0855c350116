import HelpText.Document.Name
import HelpText.Failure

/-!
The source files of a run: which files of a directory count as documents, in which order, and what
is in them. Main statement: sorted or not, the same files are chosen.
-/

namespace HelpText

/-- A file of documentation and its text. -/
structure Source where
  path : Path
  content : Text
  deriving DecidableEq, Repr

namespace Source

def name (source : Source) : Text := source.path.name

/-- The paths of a listing with this extension, in the order of the listing or in that of their
names. -/
def select (extension : Text) (sort : Bool) (listing : List Path) : List Path :=
  let chosen := listing.filter fun path => extensionOf path.name = extension
  if sort then chosen.mergeSort fun a b => !decide (b.name < a.name) else chosen

/-- Sorting neither adds nor drops a document. -/
theorem mem_select (extension : Text) (sort : Bool) (listing : List Path) (path : Path) :
    path ∈ select extension sort listing ↔ path ∈ listing ∧ extensionOf path.name = extension := by
  cases sort <;> simp [select, List.mem_mergeSort]

def discover (fs : FileSystem) (directory : Path) (extension : Text) (sort : Bool) :
    Except Stop (List Path) :=
  match fs.listFiles directory with
  | .ok listing => .ok (select extension sort listing)
  | .error fault => .error (.ofFault (.sourceDirectory directory) fault)

def read (fs : FileSystem) (path : Path) : Except Stop Source :=
  match fs.readText path with
  | .ok content => .ok { path, content }
  | .error (.access fault) => .error (.ofFault (.sourceFile path) fault)
  | .error (.encoding fault) => .error (.failure (.sourceText path fault))

/-- Reads files one after the other, up to the first that cannot be read. -/
def readAll (fs : FileSystem) : List Path → Except Stop (List Source)
  | [] => .ok []
  | path :: rest =>
    match read fs path with
    | .ok source => (readAll fs rest).map (source :: ·)
    | .error stop => .error stop

def load (fs : FileSystem) (directory : Path) (extension : Text) (sort : Bool) :
    Except Stop (List Source) :=
  match discover fs directory extension sort with
  | .ok paths => readAll fs paths
  | .error stop => .error stop

end Source

end HelpText
