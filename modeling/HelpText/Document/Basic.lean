import HelpText.Document.Name
import HelpText.Document.Scan

/-!
Documents: the help texts found in one file. The first non-blank line after the title heading is the
short description; the other lines feed the long description or the examples, as the scanner says.
Lines inside a code block are indented by a tab, and backticks are escaped for the raw string
literal the text will stand in.
-/

namespace HelpText

/-- The help texts of one command, escaped for a raw string literal. -/
structure Document where
  name : Text
  short : Text := []
  long : Text := []
  examples : Text := []
  deriving DecidableEq, Repr

namespace Document

/-- The parts of a document that become variables. -/
inductive Field where
  | short
  | long
  | examples
  deriving DecidableEq, Repr

/-- How far the search for the short description has come. -/
inductive Title where
  | awaited
  | seen
  | taken
  deriving DecidableEq, Repr

/-- The state between two lines of a whole document. -/
structure Scan where
  title : Title := .awaited
  body : ScanState := {}
  deriving DecidableEq, Repr

/-- The field of a text line in the body, if there is one. -/
def ScanState.field (full : Bool) (state : ScanState) : Option Field :=
  if full then some .long
  else match state.current with
    | .idle => none
    | .long => some .long
    | .examples => some .examples

/-- A text line as it is collected: inside a code block behind a tab. -/
def ScanState.indent (state : ScanState) (line : Text) : Text :=
  if state.inCodeBlock then '\t' :: line else line

/-- The state after a line of the body, and what the line adds to which field. -/
def ScanState.feed (full : Bool) (state : ScanState) (line : Text) :
    ScanState × Option (Field × Text) :=
  match state.advance full line with
  | (next, true) => (next, none)
  | (next, false) => (next, (next.field full).map fun field => (field, next.indent line))

/-- The state after a line, and what the line adds to which field. -/
def Scan.feed (full : Bool) (scan : Scan) (line : Text) : Scan × Option (Field × Text) :=
  match scan.title with
  | .seen =>
    -- Until the short description is found, not even headings and fences count.
    if Text.isBlank line then (scan, none) else ({ scan with title := .taken }, some (.short, line))
  | .awaited =>
    if titleHeading.isPrefixOf line then ({ scan with title := .seen }, none)
    else
      let (body, item) := scan.body.feed full line
      ({ scan with body }, item)
  | .taken =>
    let (body, item) := scan.body.feed full line
    ({ scan with body }, item)

def Scan.items (full : Bool) : Scan → List Text → List (Field × Text)
  | _, [] => []
  | scan, line :: rest =>
    match scan.feed full line with
    | (next, some item) => item :: next.items full rest
    | (next, none) => next.items full rest

/-- The lines that feed `field` in the document with these lines. -/
def collected (full : Bool) (lines : List Text) (field : Field) : List Text :=
  (({} : Scan).items full lines).filterMap fun item => if item.1 = field then some item.2 else none

/-- Closes the raw string literal, joins a quoted backtick to it and opens it again. -/
def backtickEscape : Text :=
  ['\x60', ' ', '+', ' ', '"', '\x60', '"', ' ', '+', ' ', '\x60']

def escapeBackticks (t : Text) : Text :=
  t.flatMap fun c => if c = '\x60' then backtickEscape else [c]

def parse (full : Bool) (filename content : Text) : Document where
  name := deriveName filename
  short := escapeBackticks (Text.joinTrimmed (collected full (Text.lines content) .short))
  long := escapeBackticks (Text.joinTrimmed (collected full (Text.lines content) .long))
  examples := escapeBackticks (Text.joinTrimmed (collected full (Text.lines content) .examples))

end Document

end HelpText
