import HelpText.Text.Printable

/-!
Quoted texts, as system faults show a path and as log values show a text inside a mapping. The
quotes are single unless the text holds a single quote and no double one.
-/

namespace HelpText

namespace Text

def quoteMark (t : Text) : Char :=
  if t.contains '\'' && !t.contains '"' then '"' else '\''

/-- `n` in at least `width` hexadecimal digits. -/
def hexadecimal (width n : Nat) : Text := padLeft '0' width (Nat.toDigits 16 n)

/-- The escape of a character by its number, as short as the number allows. -/
def numericEscape (c : Char) : Text :=
  if c.toNat < 0x100 then of "\\x" ++ hexadecimal 2 c.toNat
  else if c.toNat < 0x10000 then of "\\u" ++ hexadecimal 4 c.toNat
  else of "\\U" ++ hexadecimal 8 c.toNat

def quotedChar (mark c : Char) : Text :=
  if c = mark then ['\\', c]
  else match c with
    | '\\' => ['\\', '\\']
    | '\n' => ['\\', 'n']
    | '\r' => ['\\', 'r']
    | '\t' => ['\\', 't']
    | c => if isPrintable c then [c] else numericEscape c

/-- `t` in quotation marks, with what is not printable escaped. -/
def quoted (t : Text) : Text :=
  let mark := quoteMark t
  mark :: t.flatMap (quotedChar mark) ++ [mark]

end Text

end HelpText
