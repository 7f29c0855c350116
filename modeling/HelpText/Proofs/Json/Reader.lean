import HelpText.Json
import Mathlib.Logic.Basic

/-!
Reading JSON. The reader accepts what the grammar of RFC 8259 allows and nothing else. It knows
nothing of how values are written here.
-/

namespace HelpText

namespace Json

/-- What a JSON text says. Strings may hold halves of a character, and a number with a fraction or
an exponent is kept as it is spelt. -/
inductive Content where
  | null
  | boolean (value : Bool)
  | integer (value : Int)
  | decimal (spelling : Text)
  | string (value : RawText)
  | array (items : List Content)
  | object (members : List (RawText × Content))

instance : Inhabited Content := ⟨.null⟩

namespace Reader

/-- Blanks that may stand between tokens. -/
def isSpace (c : Char) : Bool := c = ' ' || c = '\t' || c = '\n' || c = '\r'

def skipSpace (t : Text) : Text := t.dropWhile isSpace

def hexValue? (c : Char) : Option Nat :=
  if c.isDigit then some (c.toNat - '0'.toNat)
  else if 'a' ≤ c && c ≤ 'f' then some (c.toNat - 'a'.toNat + 10)
  else if 'A' ≤ c && c ≤ 'F' then some (c.toNat - 'A'.toNat + 10)
  else none

/-- The number that these hexadecimal digits spell behind those of `n`. -/
def hexNumber? : Nat → Text → Option Nat
  | n, [] => some n
  | n, c :: rest => (hexValue? c).bind fun digit => hexNumber? (16 * n + digit) rest

/-- What a letter or sign behind a backslash stands for. -/
def escaped? : Char → Option Char
  | '"' => some '"'
  | '\\' => some '\\'
  | '/' => some '/'
  | 'b' => some '\x08'
  | 'f' => some '\x0c'
  | 'n' => some '\n'
  | 'r' => some '\r'
  | 't' => some '\t'
  | _ => none

/-- The code points up to the closing quotation mark, and what follows it. Control characters do
not stand in a string as they are. -/
def points? : Text → Option (RawText × Text)
  | [] => none
  | '"' :: rest => some ([], rest)
  | '\\' :: 'u' :: a :: b :: c :: d :: rest => do
    let point ← (hexNumber? 0 [a, b, c, d]).bind CodePoint.ofNumber?
    let (points, rest) ← points? rest
    some (point :: points, rest)
  | '\\' :: c :: rest => do
    let c ← escaped? c
    let (points, rest) ← points? rest
    some (.char c :: points, rest)
  | c :: rest =>
    if c < ' ' || c = '\\' then none
    else do
      let (points, rest) ← points? rest
      some (.char c :: points, rest)

/-- Halves of a character that stand together become that character. -/
def joined : RawText → RawText
  | .surrogate high :: .surrogate low :: rest =>
    if high.val < 0x400 ∧ 0x400 ≤ low.val then
      .char (Char.ofNat (0x10000 + high * 0x400 + (low - 0x400))) :: joined rest
    else .surrogate high :: joined (.surrogate low :: rest)
  | point :: rest => point :: joined rest
  | [] => []

def string? (t : Text) : Option (RawText × Text) :=
  (points? t).map fun (points, rest) => (joined points, rest)

/-- A point with digits, if there is a point. -/
def fraction? : Text → Option (Text × Text)
  | '.' :: rest =>
    let digits := rest.takeWhile Char.isDigit
    if digits.isEmpty then none else some ('.' :: digits, rest.dropWhile Char.isDigit)
  | rest => some ([], rest)

/-- The sign of an exponent, if it has one. -/
def exponentSign : Text → Text × Text
  | '+' :: rest => (['+'], rest)
  | '-' :: rest => (['-'], rest)
  | rest => ([], rest)

/-- An exponent, if there is one. -/
def exponent? : Text → Option (Text × Text)
  | mark :: rest =>
    if mark = 'e' ∨ mark = 'E' then
      let (sign, rest) := exponentSign rest
      let digits := rest.takeWhile Char.isDigit
      if digits.isEmpty then none
      else some (mark :: sign ++ digits, rest.dropWhile Char.isDigit)
    else some ([], mark :: rest)
  | [] => some ([], [])

/-- A number without its sign: digits, with no zero before others, and what may follow them. -/
def magnitude? (negative : Bool) (t : Text) : Option (Content × Text) :=
  let whole := t.takeWhile Char.isDigit
  if whole.isEmpty || (whole.head? = some '0' && whole.length ≠ 1) then none
  else do
    let (fraction, rest) ← fraction? (t.dropWhile Char.isDigit)
    let (exponent, rest) ← exponent? rest
    let value := Nat.ofDigitChars 10 whole 0
    if fraction.isEmpty && exponent.isEmpty then
      some (.integer (if negative then -(value : Int) else value), rest)
    else
      let sign := if negative then ['-'] else []
      some (.decimal (sign ++ whole ++ fraction ++ exponent), rest)

def number? : Text → Option (Content × Text)
  | '-' :: rest => magnitude? true rest
  | t => magnitude? false t

mutual

/-- The first value of a text, and what follows it. Each step into a value or on to the next one
takes one from `fuel`. -/
def value? : (fuel : Nat) → Text → Option (Content × Text)
  | 0, _ => none
  | fuel + 1, t =>
    match skipSpace t with
    | '"' :: rest => (string? rest).map fun (points, rest) => (.string points, rest)
    | '[' :: rest =>
      match skipSpace rest with
      | ']' :: rest => some (.array [], rest)
      | _ => (items? fuel rest).map fun (items, rest) => (.array items, rest)
    | '\x7b' :: rest =>
      match skipSpace rest with
      | '\x7d' :: rest => some (.object [], rest)
      | _ => (members? fuel rest).map fun (members, rest) => (.object members, rest)
    | 'n' :: 'u' :: 'l' :: 'l' :: rest => some (.null, rest)
    | 't' :: 'r' :: 'u' :: 'e' :: rest => some (.boolean true, rest)
    | 'f' :: 'a' :: 'l' :: 's' :: 'e' :: rest => some (.boolean false, rest)
    | rest => number? rest

/-- The items of an array that has some, up to its closing bracket. -/
def items? : (fuel : Nat) → Text → Option (List Content × Text)
  | 0, _ => none
  | fuel + 1, t =>
    (value? fuel t).bind fun (first, rest) =>
      match skipSpace rest with
      | ',' :: rest => (items? fuel rest).map fun (items, rest) => (first :: items, rest)
      | ']' :: rest => some ([first], rest)
      | _ => none

/-- The members of an object that has some, up to its closing brace. -/
def members? : (fuel : Nat) → Text → Option (List (RawText × Content) × Text)
  | 0, _ => none
  | fuel + 1, t =>
    match skipSpace t with
    | '"' :: rest =>
      (string? rest).bind fun (key, rest) =>
        match skipSpace rest with
        | ':' :: rest =>
          (value? fuel rest).bind fun (value, rest) =>
            match skipSpace rest with
            | ',' :: rest =>
              (members? fuel rest).map fun (members, rest) => ((key, value) :: members, rest)
            | '\x7d' :: rest => some ([(key, value)], rest)
            | _ => none
        | _ => none
    | _ => none

end

theorem value?_bracket (fuel : Nat) (t : Text) :
    value? (fuel + 1) ('[' :: t) = match skipSpace t with
      | ']' :: rest => some (.array [], rest)
      | _ => (items? fuel t).map fun (items, rest) => (.array items, rest) := by
  rw [value?]
  rfl

theorem value?_brace (fuel : Nat) (t : Text) :
    value? (fuel + 1) ('\x7b' :: t) = match skipSpace t with
      | '\x7d' :: rest => some (.object [], rest)
      | _ => (members? fuel t).map fun (members, rest) => (.object members, rest) := by
  rw [value?]
  rfl

/-- What a text says that is one JSON value. Of two steps in a row one takes a character at least.
-/
def read? (t : Text) : Option Content :=
  (value? (2 * t.length + 2) t).bind fun (content, rest) =>
    if (skipSpace rest).isEmpty then some content else none

end Reader

end Json

end HelpText
