import HelpText.Number.Shortest
import HelpText.Text.CodePoint

/-!
JSON values and their ASCII text on one line. Characters outside printable ASCII are written as
escapes of their UTF-16 units.
-/

namespace HelpText

/-- A JSON value; the members of an object keep their order. A raw string may hold surrogates. -/
inductive Json where
  | null
  | boolean (value : Bool)
  | integer (value : Int)
  | float (value : Binary64)
  | string (value : Text)
  | rawString (value : RawText)
  | array (items : List Json)
  | object (members : List (Text × Json))

namespace Json

/-- The UTF-16 units of a character: one, or two surrogates beyond the first plane. -/
def units (c : Char) : List Nat :=
  if c.toNat < 0x10000 then [c.toNat]
  else [0xd800 + (c.toNat - 0x10000) / 0x400, 0xdc00 + (c.toNat - 0x10000) % 0x400]

def unitEscape (unit : Nat) : Text := ['\\', 'u'] ++ Text.padLeft '0' 4 (Nat.toDigits 16 unit)

def escapedChar (c : Char) : Text :=
  match c with
  | '"' => ['\\', '"']
  | '\\' => ['\\', '\\']
  | '\n' => ['\\', 'n']
  | '\r' => ['\\', 'r']
  | '\t' => ['\\', 't']
  | '\x08' => ['\\', 'b']
  | '\x0c' => ['\\', 'f']
  | c => if ' ' ≤ c && c ≤ '~' then [c] else (units c).flatMap unitEscape

def stringText (t : Text) : Text := '"' :: t.flatMap escapedChar ++ ['"']

def escapedPoint : CodePoint → Text
  | .char c => escapedChar c
  | .surrogate offset => unitEscape (0xd800 + offset)

def rawStringText (t : RawText) : Text := '"' :: t.flatMap escapedPoint ++ ['"']

/-- Without surrogates a raw string is written as any other. -/
theorem rawStringText_raw (t : Text) : rawStringText t.raw = stringText t := by
  simp [rawStringText, stringText, Text.raw, List.flatMap_map, escapedPoint]

/-- A number. What is no finite number is written as a word, which strict readers refuse. -/
def floatText : Binary64 → Text
  | .notANumber => .of "NaN"
  | .infinite negative => (if negative then ['-'] else []) ++ .of "Infinity"
  | number => number.text

mutual

def text : Json → Text
  | .null => .of "null"
  | .boolean true => .of "true"
  | .boolean false => .of "false"
  | .integer value => Text.decimalInt value
  | .float value => floatText value
  | .string value => stringText value
  | .rawString value => rawStringText value
  | .array items => '[' :: Text.join [',', ' '] (itemTexts items) ++ [']']
  | .object members => '\x7b' :: Text.join [',', ' '] (memberTexts members) ++ ['\x7d']

def itemTexts : List Json → List Text
  | [] => []
  | item :: rest => text item :: itemTexts rest

def memberText : Text × Json → Text
  | (key, value) => stringText key ++ [':', ' '] ++ text value

def memberTexts : List (Text × Json) → List Text
  | [] => []
  | member :: rest => memberText member :: memberTexts rest

end

end Json

end HelpText
