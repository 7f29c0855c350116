import HelpText.Text.Lines

/-!
The line scanner of a command document. Subsection headings say which field the lines after them
feed, and code fences switch the indented code state; both are control lines and feed nothing.
-/

namespace HelpText

namespace Document

/-- The field that the current line feeds, if any. -/
inductive Section where
  | idle
  | long
  | examples
  deriving DecidableEq, Repr

/-- What the scanner remembers between the lines of a document's body. -/
structure ScanState where
  current : Section := .idle
  inCodeBlock : Bool := false
  deriving DecidableEq, Repr

/-- Starts the line that names the command. -/
def titleHeading : Text := ['#', '#', ' ']

def subsectionHeading : Text := ['#', '#', '#', ' ']

def synopsisHeading : Text := subsectionHeading ++ ['S', 'y', 'n', 'o', 'p', 's', 'i', 's']

def examplesHeading : Text := subsectionHeading ++ ['E', 'x', 'a', 'm', 'p', 'l', 'e', 's']

def codeFence : Text := ['\x60', '\x60', '\x60']

/-- The section that a subsection heading opens: only two of them have a field. -/
def Section.ofHeading (line : Text) : Section :=
  if synopsisHeading.isPrefixOf line then .long
  else if examplesHeading.isPrefixOf line then .examples
  else .idle

/-- The state after `line`, and whether `line` was a control line. With `full` set, subsections are
ordinary text. -/
def ScanState.advance (full : Bool) (state : ScanState) (line : Text) : ScanState × Bool :=
  if !full && subsectionHeading.isPrefixOf line then
    ({ state with current := Section.ofHeading line }, true)
  else if codeFence.isPrefixOf line then
    ({ state with inCodeBlock := !state.inCodeBlock }, true)
  else (state, false)

end Document

end HelpText
