import HelpText.Text.Basic

/-!
The texts of TOML 1.0: basic and literal strings on one line or several. Each reader starts behind
the opening quotation mark and gives the text with what follows the closing one.
-/

namespace HelpText

namespace Toml

/-- Why a document is refused. -/
inductive Fault where
  | malformed
  | tooManyDigits (count : Nat)
  deriving DecidableEq, Repr

/-- A value together with what follows it. -/
abbrev Reading (α : Type) := Except Fault (α × Text)

/-- Puts `c` before a text that was read. -/
def before (c : Char) (reading : Reading Text) : Reading Text :=
  reading.map fun (t, rest) => (c :: t, rest)

/-- A control character other than the tab; none may stand in a document as it is. -/
def isControl (c : Char) : Bool := (c.toNat < 32 && c != '\t') || c.toNat = 127

def isSpace (c : Char) : Bool := c == ' ' || c == '\t'

def isSpaceOrNewline (c : Char) : Bool := isSpace c || c == '\n'

def hexValue? (c : Char) : Option Nat :=
  if c.isDigit then some (c.toNat - '0'.toNat)
  else if 'a' ≤ c ∧ c ≤ 'f' then some (c.toNat - 'a'.toNat + 10)
  else if 'A' ≤ c ∧ c ≤ 'F' then some (c.toNat - 'A'.toNat + 10)
  else none

def scalar? (digits : Text) : Option Char :=
  match digits.foldl (fun n c => n.bind fun n => (hexValue? c).map (16 * n + ·)) (some 0) with
  | some n => if h : n.isValidChar then some (Char.ofNatAux n h) else none
  | none => none

/-- The character that a backslash and one more character stand for. -/
def escaped? : Char → Option Char
  | 'b' => some '\x08'
  | 't' => some '\t'
  | 'n' => some '\n'
  | 'f' => some '\x0c'
  | 'r' => some '\r'
  | '"' => some '"'
  | '\\' => some '\\'
  | _ => none

def basicString : Text → Reading Text
  | [] => .error .malformed
  | '"' :: rest => .ok ([], rest)
  | '\\' :: 'u' :: a :: b :: c :: d :: rest =>
    match scalar? [a, b, c, d] with
    | some char => before char (basicString rest)
    | none => .error .malformed
  | '\\' :: 'U' :: a :: b :: c :: d :: e :: f :: g :: h :: rest =>
    match scalar? [a, b, c, d, e, f, g, h] with
    | some char => before char (basicString rest)
    | none => .error .malformed
  | '\\' :: c :: rest =>
    match escaped? c with
    | some char => before char (basicString rest)
    | none => .error .malformed
  | c :: rest =>
    if c = '\\' || isControl c then .error .malformed else before c (basicString rest)

/-- What a line ending with a backslash leaves out: nothing, the spaces up to the end of that line,
or all blanks up to the next text. -/
inductive Gap where
  | none
  | toNewline
  | toText
  deriving DecidableEq

/-- Up to two quotation marks before the three that close a string belong to it. -/
def closing (mark : Char) : Text → Text × Text
  | a :: b :: rest =>
    if a ≠ mark then ([], a :: b :: rest)
    else if b = mark then ([mark, mark], rest)
    else ([mark], b :: rest)
  | [a] => if a = mark then ([mark], []) else ([], [a])
  | [] => ([], [])

def basicLines : Gap → Text → Reading Text
  | _, [] => .error .malformed
  | .toNewline, c :: rest =>
    if isSpace c then basicLines .toNewline rest
    else if c = '\n' then basicLines .toText rest
    else .error .malformed
  | .toText, ' ' :: rest | .toText, '\t' :: rest | .toText, '\n' :: rest => basicLines .toText rest
  | _, '"' :: '"' :: '"' :: rest => .ok (closing '"' rest)
  | _, '\\' :: 'u' :: a :: b :: c :: d :: rest =>
    match scalar? [a, b, c, d] with
    | some char => before char (basicLines .none rest)
    | none => .error .malformed
  | _, '\\' :: 'U' :: a :: b :: c :: d :: e :: f :: g :: h :: rest =>
    match scalar? [a, b, c, d, e, f, g, h] with
    | some char => before char (basicLines .none rest)
    | none => .error .malformed
  | _, '\\' :: c :: rest =>
    if c = '\n' then basicLines .toText rest
    else if isSpace c then basicLines .toNewline rest
    else match escaped? c with
      | some char => before char (basicLines .none rest)
      | none => .error .malformed
  | _, c :: rest =>
    if c = '\\' || (isControl c && c != '\n') then .error .malformed
    else before c (basicLines .none rest)

def literalString : Text → Reading Text
  | [] => .error .malformed
  | '\'' :: rest => .ok ([], rest)
  | c :: rest => if isControl c then .error .malformed else before c (literalString rest)

def literalLines : Text → Reading Text
  | [] => .error .malformed
  | '\'' :: '\'' :: '\'' :: rest => .ok (closing '\'' rest)
  | c :: rest =>
    if isControl c && c != '\n' then .error .malformed else before c (literalLines rest)

/-- A text behind three quotation marks: a newline right there does not count. -/
def dropFirstNewline : Text → Text
  | '\n' :: rest => rest
  | t => t

end Toml

end HelpText
