import HelpText.Text.Basic

/-!
Blank characters: the white space of Unicode together with the four separators U+001C to U+001F.
Trimming and the test for a blank line rest on this one class.
-/

namespace HelpText

namespace Text

/-- First and last code points of the runs of blank characters. -/
def blankRanges : List (Nat × Nat) :=
  [(0x9, 0xd), (0x1c, 0x20), (0x85, 0x85), (0xa0, 0xa0), (0x1680, 0x1680), (0x2000, 0x200a),
    (0x2028, 0x2029), (0x202f, 0x202f), (0x205f, 0x205f), (0x3000, 0x3000)]

/-- A blank character: white space, or one of the separators U+001C to U+001F. -/
def isBlankChar (c : Char) : Bool := isWithin blankRanges c

/-- The white space of ASCII source files is blank. -/
theorem isBlankChar_of_isWhitespace {c : Char} (h : c.isWhitespace = true) :
    isBlankChar c = true := by
  simp only [Char.isWhitespace, Bool.or_eq_true, decide_eq_true_eq] at h
  rcases h with ((h | h) | h) | h <;> subst h <;> decide

/-- A blank text holds blank characters only; the empty text is blank. -/
def isBlank (t : Text) : Bool := t.all isBlankChar

def trim (t : Text) : Text := trimBoth isBlankChar t

end Text

end HelpText
