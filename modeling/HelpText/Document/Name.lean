import HelpText.Text.Blank
import HelpText.Text.Uppercase

/-!
Names derived from file names: `my-cmd.md` gives `MyCmd`. The text from the last dot on is the
extension; it is taken out wherever it occurs, every word is capitalised and the hyphens go.
-/

namespace HelpText

/-- The text of `name` from its last dot on; empty without a dot. -/
def extensionOf (name : Text) : Text :=
  if name.contains '.' then '.' :: (name.reverse.takeWhile (· ≠ '.')).reverse else []

namespace Document

/-- A character after which a new word begins: any ASCII character but letters, digits and the
underscore, and beyond ASCII any blank. -/
def isSeparator (c : Char) : Bool :=
  if c.toNat < 128 then !(c.isAlphanum || c == '_') else Text.isBlankChar c

/-- `t` with the first character of every word in upper case, where `previous` stands before it. -/
def titleCaseFrom (previous : Char) : Text → Text
  | [] => []
  | c :: rest => (if isSeparator previous then Text.upperChar c else [c]) ++ titleCaseFrom c rest

/-- `t` with the first character of every word in upper case. -/
def titleCase (t : Text) : Text := titleCaseFrom ' ' t

/-- The name that the variables of the document in `filename` begin with. -/
def deriveName (filename : Text) : Text :=
  (titleCase (Text.removeAll (extensionOf filename) filename)).filter (· ≠ '-')

end Document

end HelpText
