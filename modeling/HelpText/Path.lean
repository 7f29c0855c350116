import HelpText.Text.Basic

/-!
Paths. A path keeps what stands before its first name (nothing, one slash or exactly two) and its
names; empty and `.` pieces disappear when it is read, `..` stays. Beside it stands the stronger
normal form of a path text, in which `..` takes the name before it away.
-/

namespace HelpText

/-- A path: its root and the names below it. -/
structure Path where
  root : Text := []
  names : List Text
  deriving DecidableEq, Repr

namespace Path

/-- What stands before the first name of a path text: exactly two slashes are kept as they are, any
other number counts as one. -/
def rootOf (t : Text) : Text :=
  match (t.takeWhile (· = '/')).length with
  | 0 => []
  | 2 => ['/', '/']
  | _ => ['/']

/-- A piece of a path text that names something. -/
def isName (piece : Text) : Bool := !(piece == [] || piece == ['.'])

def read (t : Text) : Path where
  root := rootOf t
  names := (Text.cut '/' t).filter isName

def text (p : Path) : Text :=
  if p.root = [] ∧ p.names = [] then ['.'] else p.root ++ Text.join ['/'] p.names

instance : ToString Path := ⟨fun p => p.text.toString⟩

def name (p : Path) : Text := p.names.getLastD []

def parent (p : Path) : Path := { p with names := p.names.dropLast }

/-- `q` seen from `p`: a rooted `q` stands for itself. -/
def append (p q : Path) : Path :=
  if q.root = [] then { p with names := p.names ++ q.names } else q

instance : Append Path := ⟨append⟩

/-- Puts `piece` behind the names kept so far, latest first: `..` takes the latest away where there
is one, is dropped right below a root, and stays otherwise. -/
def pushPiece (rooted : Bool) (kept : List Text) (piece : Text) : List Text :=
  if !isName piece then kept
  else if piece ≠ ['.', '.'] then piece :: kept
  else match kept with
    | [] => if rooted then [] else [piece]
    | last :: rest => if last = ['.', '.'] then piece :: kept else rest

def normalNames (t : Text) : List Text :=
  ((Text.cut '/' t).foldl (pushPiece (rootOf t != [])) []).reverse

def normalText (t : Text) : Text :=
  let whole := rootOf t ++ Text.join ['/'] (normalNames t)
  if whole = [] then ['.'] else whole

def lastPiece (t : Text) : Text := (Text.cut '/' t).getLastD []

end Path

end HelpText
