import HelpText.Table
import HelpText.Text.Basic

/-!
The hierarchy of loggers. The names before the dots of a name stand above it; a logger in use hangs
below the nearest of them in use, or below the root. Main statements: a lineage starts with the
logger itself, and a logger in use stays where it is when it is used again.
-/

namespace HelpText

namespace Log

/-- The name of the logger above all others. -/
def rootName : Text := .of "root"

/-- The name a logger goes by: one without a name is the root. -/
def loggerName (name : Text) : Text := if name = [] then rootName else name

/-- The names before the dots of a name, given and taken from its end. A dot right before another
one ends no name. -/
def namesAbove : Text → List Text
  | [] => []
  | [_] => []
  | c :: d :: rest =>
    if c = '.' then (d :: rest).reverse :: namesAbove rest else namesAbove (d :: rest)

/-- The place of a logger in use: the logger that it hangs below, and the names in between that were
not in use when it came there. -/
structure Place where
  above : Text
  skipped : List Text
  deriving DecidableEq, Repr

/-- The loggers in use, the root apart. -/
abbrev Hierarchy := Table Text Place

namespace Hierarchy

/-- Makes room for `name` in its turn between a logger that skipped it and the logger above that.
Only a logger above whose own name begins with `name` stays; that of the root counts there too. -/
def makeRoom (name : Text) (place : Place) : Place :=
  if name ∈ place.skipped ∧ ¬ name.isPrefixOf place.above then { place with above := name }
  else place

def placeFor (h : Hierarchy) (name : Text) : Place :=
  let isNew (above : Text) : Bool := (h.get? above).isNone
  let names := namesAbove name.reverse
  { above := (names.dropWhile isNew).headD rootName, skipped := names.takeWhile isNew }

def enrol (h : Hierarchy) (name : Text) : Hierarchy :=
  if name = rootName ∨ (h.get? name).isSome then h
  else Table.put name (h.placeFor name)
    (h.map fun (other, place) => (other, makeRoom name place))

/-- A logger and those above it, nearest first. No lineage is longer than `fuel`. -/
def lineageWithin (h : Hierarchy) : (fuel : Nat) → Text → List Text
  | 0, name => [name]
  | fuel + 1, name =>
    match h.get? name with
    | some place => name :: h.lineageWithin fuel place.above
    | none => [name]

/-- A logger and those above it, nearest first. Each but the root is in use, which bounds them. -/
def lineage (h : Hierarchy) (name : Text) : List Text := h.lineageWithin h.length name

theorem head?_lineage (h : Hierarchy) (name : Text) : (h.lineage name).head? = some name := by
  unfold lineage
  cases h.length with
  | zero => rfl
  | succ fuel => unfold lineageWithin; split <;> rfl

theorem isSome_get?_enrol (h : Hierarchy) {name : Text} (hn : name ≠ rootName) :
    ((h.enrol name).get? name).isSome := by
  unfold enrol
  split
  · next hu => exact hu.resolve_left hn
  · rw [Table.get?_put, if_pos rfl]; rfl

/-- Only the first use of a logger counts. -/
theorem enrol_enrol (h : Hierarchy) (name : Text) : (h.enrol name).enrol name = h.enrol name := by
  by_cases hn : name = rootName
  · simp [enrol, hn]
  · exact if_pos (.inr (h.isSome_get?_enrol hn))

end Hierarchy

end Log

end HelpText
