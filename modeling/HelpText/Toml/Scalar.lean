import HelpText.Settings.Value
import HelpText.Toml.Quotation

/-!
The dates, times and numbers of TOML 1.0. Every reader takes the longest text of its form that
stands at the front and gives what follows it.
-/

namespace HelpText

namespace Toml

open Settings (Value)

/-- The largest number of decimal digits an integer may be written with. -/
def maxDigits : Nat := 4300

/-- Two digits, as a number below `bound`. -/
def pair? (bound : Nat) : Text → Option (Nat × Text)
  | a :: b :: rest =>
    if a.isDigit && b.isDigit then
      let n := Binary64.natOfDigits [a, b]
      if n < bound then some (n, rest) else none
    else none
  | _ => none

/-- What follows `c` at the front. -/
def behind? (c : Char) : Text → Option Text
  | d :: rest => if d = c then some rest else none
  | [] => none

/-- A date in form; whether the month has such a day is another question. -/
def date? : Text → Option (Date × Text)
  | a :: b :: c :: d :: '-' :: rest => do
    guard ([a, b, c, d].all Char.isDigit)
    let (month, rest) ← pair? 13 rest
    let rest ← behind? '-' rest
    let (day, rest) ← pair? 32 rest
    guard (month ≠ 0 && day ≠ 0)
    pure (⟨Binary64.natOfDigits [a, b, c, d], month, day⟩, rest)
  | _ => none

/-- The microseconds that the digits behind the point begin with. -/
def microseconds (digits : Text) : Nat :=
  let first := digits.take 6
  Binary64.natOfDigits (first ++ List.replicate (6 - first.length) '0')

/-- A fraction of a second, in microseconds; what is finer is passed over. -/
def fraction : Text → Nat × Text
  | '.' :: c :: rest =>
    if c.isDigit then
      (microseconds ((c :: rest).takeWhile Char.isDigit), (c :: rest).dropWhile Char.isDigit)
    else (0, '.' :: c :: rest)
  | t => (0, t)

def time? (t : Text) : Option (TimeOfDay × Text) := do
  let (hour, rest) ← pair? 24 t
  let rest ← behind? ':' rest
  let (minute, rest) ← pair? 60 rest
  let rest ← behind? ':' rest
  let (second, rest) ← pair? 60 rest
  let (microsecond, rest) := fraction rest
  pure (⟨hour, minute, second, microsecond⟩, rest)

def offset? : Text → Option (Int × Text)
  | [] => none
  | c :: rest =>
    if c = 'Z' ∨ c = 'z' then some (0, rest)
    else if c = '+' ∨ c = '-' then do
      let (hours, rest) ← pair? 24 rest
      let rest ← behind? ':' rest
      let (minutes, rest) ← pair? 60 rest
      let offset : Int := 60 * hours + minutes
      pure (if c = '-' then -offset else offset, rest)
    else none

def timeBehind? : Text → Option (TimeOfDay × Text)
  | c :: rest => if c = 'T' ∨ c = 't' ∨ c = ' ' then time? rest else none
  | [] => none

def dateValue? (t : Text) : Option (Reading Value) :=
  (date? t).map fun (date, rest) =>
    if !date.isValid then .error .malformed
    else match timeBehind? rest with
      | none => .ok (.date date, rest)
      | some (time, rest) =>
        match offset? rest with
        | none => .ok (.dateTime ⟨date, time, none⟩, rest)
        | some (offset, rest) => .ok (.dateTime ⟨date, time, some offset⟩, rest)

/-- Digits behind a digit, single underscores between them left out. -/
def moreDigits (p : Char → Bool) : Text → Text × Text
  | '_' :: c :: rest =>
    if p c then
      let (digits, rest) := moreDigits p rest
      (c :: digits, rest)
    else ([], '_' :: c :: rest)
  | c :: rest =>
    if p c then
      let (digits, rest) := moreDigits p rest
      (c :: digits, rest)
    else ([], c :: rest)
  | [] => ([], [])

def digits? (p : Char → Bool) : Text → Option (Text × Text)
  | c :: rest =>
    if p c then
      let (digits, rest) := moreDigits p rest
      some (c :: digits, rest)
    else none
  | [] => none

def natInBase (base : Nat) (digits : Text) : Nat :=
  digits.foldl (fun n c => base * n + (hexValue? c).getD 0) 0

/-- The base that a letter behind a zero announces. -/
def base? : Char → Option Nat
  | 'x' => some 16
  | 'o' => some 8
  | 'b' => some 2
  | _ => none

def basedInteger? : Text → Option (Value × Text)
  | '0' :: letter :: rest => do
    let base ← base? letter
    let (digits, rest) ← digits? (fun c => (hexValue? c).any (· < base)) rest
    pure (.integer (natInBase base digits), rest)
  | _ => none

/-- The whole part of a decimal number: a zero alone or digits that start with another. -/
def wholePart? : Text → Option (Text × Text)
  | '0' :: rest => some (['0'], rest)
  | t => digits? Char.isDigit t

def fractionPart : Text → Text × Text
  | '.' :: rest =>
    match digits? Char.isDigit rest with
    | some (digits, rest) => ('.' :: digits, rest)
    | none => ([], '.' :: rest)
  | t => ([], t)

def exponentPart : Text → Text × Text
  | c :: rest =>
    if c = 'e' ∨ c = 'E' then
      let (sign, digits) := match rest with
        | '+' :: tail => (['+'], tail)
        | '-' :: tail => (['-'], tail)
        | tail => ([], tail)
      match digits? Char.isDigit digits with
      | some (digits, tail) => (c :: sign ++ digits, tail)
      | none => ([], c :: rest)
    else ([], c :: rest)
  | [] => ([], [])

def signPart : Text → Text × Text
  | '+' :: rest => (['+'], rest)
  | '-' :: rest => (['-'], rest)
  | t => ([], t)

/-- A decimal number: an integer, or a float if a fraction or an exponent stands behind it. -/
def decimalNumber? (t : Text) : Option (Reading Value) := do
  let (sign, rest) := signPart t
  let (whole, rest) ← wholePart? rest
  let (fraction, rest) := fractionPart rest
  let (exponent, rest) := exponentPart rest
  if fraction.isEmpty && exponent.isEmpty then
    if whole.length > maxDigits then some (.error (.tooManyDigits whole.length))
    else
      let n : Int := Binary64.natOfDigits whole
      some (.ok (.integer (if sign = ['-'] then -n else n), rest))
  else (Binary64.read? (sign ++ whole ++ fraction ++ exponent)).map fun x => .ok (.float x, rest)

def specialFloat? (t : Text) : Option (Value × Text) :=
  let (sign, rest) := signPart t
  let word := rest.take 3
  if word = ['i', 'n', 'f'] ∨ word = ['n', 'a', 'n'] then
    (Binary64.read? (sign ++ word)).map fun x => (.float x, rest.drop 3)
  else none

def boolean? : Text → Option (Value × Text)
  | 't' :: 'r' :: 'u' :: 'e' :: rest => some (.boolean true, rest)
  | 'f' :: 'a' :: 'l' :: 's' :: 'e' :: rest => some (.boolean false, rest)
  | _ => none

def scalar (t : Text) : Reading Value :=
  match boolean? t with
  | some reading => .ok reading
  | none =>
    match dateValue? t with
    | some reading => reading
    | none =>
      match time? t with
      | some (time, rest) => .ok (.time time, rest)
      | none =>
        match basedInteger? t with
        | some reading => .ok reading
        | none =>
          match decimalNumber? t with
          | some reading => reading
          | none =>
            match specialFloat? t with
            | some reading => .ok reading
            | none => .error .malformed

end Toml

end HelpText
