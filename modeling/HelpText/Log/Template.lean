import HelpText.Log.Value
import HelpText.Number.Places
import HelpText.Text.CodePoint

/-!
Message templates: text with `%` directives that take the arguments of a record in turn, or by key
from a mapping. A template is read into pieces first; what is wrong with a directive comes out when
the directive is reached.
-/

namespace HelpText

namespace Log

namespace Template

/-- What a number in a directive says. -/
inductive Use where
  | width
  | places
  deriving DecidableEq, Repr

/-- The largest number that can say it. -/
def Use.limit : Use → Nat
  | .width => Nat.pow 2 63 - 1
  | .places => Nat.pow 2 31 - 1

/-- Why a message cannot be written. -/
inductive Fault where
  | tooFewArguments
  | tooManyArguments
  | incomplete
  | incompleteKey
  | noMapping
  | missingKey (key : Text)
  | unknownConversion (conversion : Char) (index : Nat)
  | measureNotInteger
  | measureTooBig (use : Use)
  | argumentTooBig (use : Use)
  | notReal (conversion : Char) (kind : Text)
  | notInteger (conversion : Char) (kind : Text)
  | notFloat (kind : Text)
  | notCharacter
  | noSuchCharacter
  | noInteger (word : Text)
  | hugeInteger
  | longInteger
  deriving DecidableEq, Repr

def Fault.text : Fault → Text
  | .tooFewArguments => .of "not enough arguments for format string"
  | .tooManyArguments => .of "not all arguments converted during string formatting"
  | .incomplete => .of "incomplete format"
  | .incompleteKey => .of "incomplete format key"
  | .noMapping => .of "format requires a mapping"
  | .missingKey key => Text.quoted key
  | .unknownConversion conversion index =>
    .of "unsupported format character '" ++
      [if ' ' ≤ conversion && conversion ≤ '~' || conversion = '\x1f' then conversion else '?'] ++
      .of "' (0x" ++ Nat.toDigits 16 conversion.toNat ++ .of ") at index " ++ Text.decimal index
  | .measureNotInteger => .of "* wants int"
  | .measureTooBig .width => .of "width too big"
  | .measureTooBig .places => .of "precision too big"
  | .argumentTooBig .width => .of "Python int too large to convert to C ssize_t"
  | .argumentTooBig .places => .of "Python int too large to convert to C int"
  | .notReal conversion kind =>
    ['%', conversion] ++ .of " format: a real number is required, not " ++ kind
  | .notInteger conversion kind =>
    ['%', conversion] ++ .of " format: an integer is required, not " ++ kind
  | .notFloat kind => .of "must be real number, not " ++ kind
  | .notCharacter => .of "%c requires int or char"
  | .noSuchCharacter => .of "%c arg not in range(0x110000)"
  | .noInteger word => .of "cannot convert float " ++ word ++ .of " to integer"
  | .hugeInteger => .of "int too large to convert to float"
  | .longInteger =>
    .of "Exceeds the limit (4300 digits) for integer string conversion; " ++
      .of "use sys.set_int_max_str_digits() to increase the limit"

/-- A width or a number of places: written out, or taken from the arguments. -/
inductive Measure where
  | given (n : Nat)
  | argument
  deriving DecidableEq, Repr

/-- The key of a directive, if it has one. -/
inductive Key where
  | absent
  | open
  | named (key : Text)
  deriving DecidableEq, Repr

/-- A directive. `index` tells where in the template its conversion stands. -/
structure Directive where
  key : Key
  flags : Text
  width : Option Measure
  places : Option Measure
  conversion : Option Char
  index : Nat
  deriving DecidableEq, Repr

/-- A piece of a template. -/
inductive Piece where
  | char (c : Char)
  | directive (directive : Directive)
  deriving DecidableEq, Repr

/-- The characters before the bracket that closes a key, and what follows it; `depth` brackets are
open inside. -/
def closeKey : Nat → Text → Option (Text × Text)
  | _, [] => none
  | depth, c :: rest =>
    if c = ')' then
      match depth with
      | 0 => some ([], rest)
      | outer + 1 => (closeKey outer rest).map fun (key, tail) => (c :: key, tail)
    else
      let inner := if c = '(' then depth + 1 else depth
      (closeKey inner rest).map fun (key, tail) => (c :: key, tail)

/-- A key at the start of a directive. An open key leaves nothing. -/
def readKey : Text → Key × Text
  | '(' :: rest =>
    match closeKey 0 rest with
    | some (key, tail) => (.named key, tail)
    | none => (.open, [])
  | t => (.absent, t)

def readMeasure (t : Text) : Option Measure × Text :=
  match t with
  | '*' :: rest => (some .argument, rest)
  | _ =>
    let digits := t.takeWhile Char.isDigit
    if digits.isEmpty then (none, t)
    else (some (.given (Binary64.natOfDigits digits)), t.dropWhile Char.isDigit)

/-- The places behind a point, if there is one; a bare point asks for none. -/
def readPlaces : Text → Option Measure × Text
  | '.' :: rest =>
    let (places, tail) := readMeasure rest
    (some (places.getD (.given 0)), tail)
  | t => (none, t)

/-- Passes over one letter for the size of an argument. -/
def dropSize : Text → Text
  | 'h' :: rest | 'l' :: rest | 'L' :: rest => rest
  | t => t

def isFlag (c : Char) : Bool := c ∈ ['-', '+', ' ', '#', '0']

/-- The directive whose sign stands before `t` at `start`, and what follows it. -/
def readDirective (start : Nat) (t : Text) : Directive × Text :=
  let (key, afterKey) := readKey t
  let flags := afterKey.takeWhile isFlag
  let (width, afterWidth) := readMeasure (afterKey.dropWhile isFlag)
  let (places, afterPlaces) := readPlaces afterWidth
  let tail := dropSize afterPlaces
  let index := start + (t.length - tail.length)
  ({ key, flags, width, places, conversion := tail.head?, index }, tail.drop 1)

/-- The pieces of the template `t`, which stands at `start` of the whole; `fuel` covers its length.
A doubled `%` stands for itself. -/
def pieces : (fuel start : Nat) → (t : Text) → List Piece
  | 0, _, _ | _, _, [] => []
  | fuel + 1, start, '%' :: '%' :: rest => .char '%' :: pieces fuel (start + 2) rest
  | fuel + 1, start, '%' :: rest =>
    let (directive, tail) := readDirective (start + 1) rest
    .directive directive :: pieces fuel (start + 1 + (rest.length - tail.length)) tail
  | fuel + 1, start, c :: rest => .char c :: pieces fuel (start + 1) rest

/-- The arguments that are left: those in turn, or a mapping, which counts as one argument too. -/
structure Supply where
  queue : List Value
  mapping : Option (List (Text × Value)) := none

/-- What a record's arguments supply. A single mapping that is not empty is looked up by key. -/
def Supply.ofArguments : List Value → Supply
  | [.mapping (row :: rest)] => { queue := [.mapping (row :: rest)], mapping := some (row :: rest) }
  | arguments => { queue := arguments }

def Supply.next (supply : Supply) : Except Fault (Value × Supply) :=
  match supply.queue with
  | [] => .error .tooFewArguments
  | value :: rest => .ok (value, { supply with queue := rest })

/-- Looks the key of a directive up; its value is the next argument then. -/
def Supply.choose (supply : Supply) : Key → Except Fault Supply
  | .absent => .ok supply
  | key =>
    match supply.mapping, key with
    | none, _ => .error .noMapping
    | some rows, .named key =>
      match Table.get? rows key with
      | some value => .ok { supply with queue := [value] }
      | none => .error (.missingKey key)
    | some _, _ => .error .incompleteKey

/-- An integer of a value that counts as one. -/
def integer? : Value → Option Int
  | .integer n => some n
  | .boolean b => some (if b then 1 else 0)
  | _ => none

def measured (use : Use) (supply : Supply) : Option Measure → Except Fault (Option Int × Supply)
  | none => .ok (none, supply)
  | some (.given n) => if n ≤ use.limit then .ok (some n, supply) else .error (.measureTooBig use)
  | some .argument =>
    match supply.next with
    | .ok (value, rest) =>
      match integer? value with
      | some n =>
        if -(use.limit : Int) - 1 ≤ n ∧ n ≤ use.limit then .ok (some n, rest)
        else .error (.argumentTooBig use)
      | none => .error .measureNotInteger
    | .error fault => .error fault

/-- A text to be set into a field: a number has a sign and a mark of its base apart from its digits.
-/
structure Body where
  isNumber : Bool
  sign : Text := []
  mark : Text := []
  digits : RawText

def Body.fill (body : Body) (left zeros : Bool) (width : Nat) : RawText :=
  let lead := Text.raw (body.sign ++ body.mark)
  let gap := width - (lead.length + body.digits.length)
  if left then lead ++ body.digits ++ List.replicate gap (.char ' ')
  else if zeros && body.isNumber then lead ++ List.replicate gap (.char '0') ++ body.digits
  else List.replicate gap (.char ' ') ++ lead ++ body.digits

def signOf (flags : Text) (negative : Bool) : Text :=
  if negative then ['-']
  else if flags.contains '+' then ['+']
  else if flags.contains ' ' then [' ']
  else []

def textBody (places : Option Nat) (t : RawText) : Body :=
  { isNumber := false, digits := match places with
      | some n => t.take n
      | none => t }

def integerBody (flags : Text) (conversion : Char) (places : Option Nat) (n : Int) : Body :=
  let digits := match conversion with
    | 'o' => Nat.toDigits 8 n.natAbs
    | 'x' => Nat.toDigits 16 n.natAbs
    | 'X' => (Nat.toDigits 16 n.natAbs).map Char.toUpper
    | _ => Text.decimal n.natAbs
  { isNumber := true
    sign := signOf flags (n < 0)
    mark := if flags.contains '#' && conversion ∈ ['o', 'x', 'X'] then ['0', conversion] else []
    digits := (Text.padLeft '0' (places.getD 0) digits).raw }

def floatBody (flags : Text) (conversion : Char) (places : Option Nat) (x : Binary64) : Body :=
  let style : Binary64.Style := match conversion.toLower with
    | 'e' => .scientific
    | 'f' => .fixed
    | _ => .general
  let digits := x.placesText style (flags.contains '#') (places.getD 6)
  { isNumber := true
    sign := signOf flags x.isNegative
    digits := Text.raw (if conversion.isUpper then digits.map Char.toUpper else digits) }

def wholeNumber (conversion : Char) : Value → Except Fault Int
  | .integer n => .ok n
  | .boolean b => .ok (if b then 1 else 0)
  | .float (.finite negative significand exponent) =>
    if conversion ∈ ['o', 'x', 'X'] then .error (.notInteger conversion (.of "float"))
    else .ok (Binary64.truncated negative significand exponent)
  | .float x =>
    if conversion ∈ ['o', 'x', 'X'] then .error (.notInteger conversion (.of "float"))
    else .error (.noInteger (if x = .notANumber then .of "NaN" else .of "infinity"))
  | value =>
    .error (if conversion ∈ ['o', 'x', 'X'] then .notInteger conversion value.kindWord
      else .notReal conversion value.kindWord)

def floatNumber : Value → Except Fault Binary64
  | .float x => .ok x
  | value =>
    match integer? value with
    | some n =>
      match Binary64.ofInt n with
      | .infinite _ => .error .hugeInteger
      | x => .ok x
    | none => .error (.notFloat value.kindWord)

/-- The code point that a value stands for: a text of one character, or a number, which may be that
of a surrogate. -/
def codePoint : Value → Except Fault CodePoint
  | .text [c] => .ok (.char c)
  | value =>
    match integer? value with
    | some (.ofNat n) =>
      match CodePoint.ofNumber? n with
      | some p => .ok p
      | none => .error .noSuchCharacter
    | some (.negSucc _) => .error .noSuchCharacter
    | none => .error .notCharacter

def asciiOnly (t : Text) : Text :=
  t.flatMap fun c => if c.toNat < 128 then [c] else Text.numericEscape c

def convert (directive : Directive) (places : Option Nat) (conversion : Char) (value : Value) :
    Except Fault Body :=
  let written (t : Text) : Except Fault Body :=
    if value.allWritable then .ok (textBody places t.raw) else .error .longInteger
  match conversion with
  | 's' => written value.plain
  | 'r' => written value.shown
  | 'a' => written (asciiOnly value.shown)
  | 'd' | 'i' | 'u' =>
    match wholeNumber conversion value with
    | .ok n =>
      if Value.isWritable n then .ok (integerBody directive.flags conversion places n)
      else .error .longInteger
    | .error fault => .error fault
  | 'o' | 'x' | 'X' =>
    (wholeNumber conversion value).map (integerBody directive.flags conversion places)
  | 'e' | 'E' | 'f' | 'F' | 'g' | 'G' =>
    (floatNumber value).map (floatBody directive.flags conversion places)
  | 'c' => (codePoint value).map fun p => textBody none [p]
  | _ => .error (.unknownConversion conversion directive.index)

def Directive.write (directive : Directive) (supply : Supply) :
    Except Fault (RawText × Supply) := do
  let supply ← supply.choose directive.key
  let (width, supply) ← measured .width supply directive.width
  let (places, supply) ← measured .places supply directive.places
  match directive.conversion with
  | none => .error .incomplete
  | some conversion =>
    let (value, supply) ← supply.next
    let body ← convert directive (places.map Int.toNat) conversion value
    let width := width.getD 0
    let left := directive.flags.contains '-' || width < 0
    let filled := body.fill left (directive.flags.contains '0') width.natAbs
    -- A mapping has to be used up by the first directive without a key.
    if supply.mapping.isSome && !supply.queue.isEmpty then .error .tooManyArguments
    else .ok (filled, supply)

/-- The text of the pieces. Arguments that are left over are a fault unless they can be looked up.
-/
def write : List Piece → Supply → Except Fault RawText
  | [], supply =>
    if supply.mapping.isNone && !supply.queue.isEmpty then .error .tooManyArguments else .ok []
  | .char c :: rest, supply => (write rest supply).map (.char c :: ·)
  | .directive directive :: rest, supply =>
    match directive.write supply with
    | .ok (t, left) => (write rest left).map (t ++ ·)
    | .error fault => .error fault

end Template

/-- The message that a template gives with these arguments. Without any it stands as it is. -/
def message (template : Text) (arguments : List Value) : Except Template.Fault RawText :=
  if arguments.isEmpty then .ok template.raw
  else Template.write (Template.pieces template.length 0 template) (.ofArguments arguments)

end Log

end HelpText
