import HelpText.Text.CellWidth

/-!
Text for a console: control characters that would move the cursor are left out, and tabs become
blanks up to the next multiple of eight columns. Main statement: a line without tabs stays as it is.
-/

namespace HelpText

namespace CommandLine

/-- The control characters that a console does not get: BEL, BS, VT, FF and CR. -/
def isHidden (c : Char) : Bool := c ∈ ['\x07', '\x08', '\x0b', '\x0c', '\r']

def tabWidth : Nat := 8

/-- The blanks that lead from the end of a piece, which starts at a tab stop, to the next tab stop.
There is at least one. -/
def blanksBehind (piece : Text) : Nat :=
  let reached := Text.cells (piece ++ [' '])
  1 + (tabWidth - reached % tabWidth) % tabWidth

/-- The pieces of a line between its tabs, set at tab stops. -/
def expandPieces : List Text → Text
  | [] => []
  | [piece] => piece
  | piece :: next :: rest =>
    piece ++ List.replicate (blanksBehind piece) ' ' ++ expandPieces (next :: rest)

def expandTabs (line : Text) : Text := expandPieces (Text.cut '\t' line)

/-- Only tabs are changed. -/
theorem expandTabs_of_not_mem {line : Text} (h : '\t' ∉ line) : expandTabs line = line := by
  rw [expandTabs, Text.cut_of_not_mem h, expandPieces]

/-- The console that the program is run with. No theorem about the program rests on what it does
with tabs, where the columns of joined emoji and of marks without a column are an approximation. -/
def consoleLine (t : Text) : Text :=
  Text.join ['\n'] ((Text.cut '\n' (t.filter (!isHidden ·))).map expandTabs) ++ ['\n']

end CommandLine

end HelpText
