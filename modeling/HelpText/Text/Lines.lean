import HelpText.Text.Blank

/-!
The lines of a text. A line ends at a newline with an optional carriage return before it; a last
line without a newline counts unless it is empty.
-/

namespace HelpText

namespace Text

/-- `line` without one carriage return at its end. -/
def dropReturn (line : Text) : Text :=
  if line.getLast? = some '\r' then line.dropLast else line

/-- The pieces of a cut without the last one if that is empty. -/
def dropLastEmpty (pieces : List Text) : List Text :=
  if pieces.getLast? = some [] then pieces.dropLast else pieces

def lines (content : Text) : List Text :=
  (dropLastEmpty (cut '\n' content)).map dropReturn

/-- `lines` without the blank ones at either end, joined by newlines. -/
def joinTrimmed (lines : List Text) : Text := join ['\n'] (trimBoth isBlank lines)

end Text

end HelpText
