import HelpText.Text.Digit
import HelpText.Text.Quoted

/-!
The flags of the command line, how they are spelt, and what role a word plays among others. A long
flag may be cut short as long as no other one begins like that; a short one may be followed by more.
-/

namespace HelpText

namespace CommandLine

/-- What can be asked for beside the two directories. -/
inductive Flag where
  | help
  | full
  | license
  | settingsFile
  | noSort
  | strictNames
  | outputName
  | logLevel
  | logFile
  | verbose
  | version
  deriving DecidableEq, Repr

/-- Whether a flag comes with a value. -/
inductive Arity where
  | none
  | optional
  | one
  deriving DecidableEq, Repr

def Flag.arity : Flag → Arity
  | .help | .noSort | .strictNames | .verbose | .version => .none
  | .full => .optional
  | .license | .settingsFile | .outputName | .logLevel | .logFile => .one

/-- Every spelling, in the order in which help shows them. -/
def spellings : List (Text × Flag) :=
  [(.of "-h", .help), (.of "--help", .help),
    (.of "--full", .full),
    (.of "--license", .license),
    (.of "--config", .settingsFile),
    (.of "--no-sort", .noSort),
    (.of "--strict-names", .strictNames),
    (.of "--output-name", .outputName),
    (.of "--log-level", .logLevel),
    (.of "--log-file", .logFile),
    (.of "-v", .verbose), (.of "--verbose", .verbose),
    (.of "-V", .version), (.of "--version", .version)]

def flagOf? (spelling : Text) : Option Flag := (spellings.find? (·.1 = spelling)).map Prod.snd

def Flag.text (flag : Flag) : Text :=
  Text.join ['/'] ((spellings.filter (·.2 = flag)).map Prod.fst)

/-- A flag as it was found in a word: by its short or its long spelling, and with what stands behind
it in the word. -/
structure Found where
  flag : Flag
  isShort : Bool
  value : Option Text
  deriving DecidableEq, Repr

/-- What a word is. -/
inductive Role where
  | operand
  | separator
  | flag (found : Found)
  | unknownFlag
  deriving DecidableEq, Repr

/-- The word after which all words are operands. -/
def separatorWord : Text := ['-', '-']

/-- The part of a word before its first equals sign, and what follows the sign if there is one. -/
def splitValue (word : Text) : Text × Option Text :=
  (word.takeWhile (· ≠ '='), (word.dropWhile (· ≠ '=')).tail?)

/-- The flags that a word may stand for, with their spellings. -/
def candidates : Text → List (Text × Found)
  | '-' :: '-' :: rest =>
    let (begun, value) := splitValue ('-' :: '-' :: rest)
    (spellings.filter fun item => begun.isPrefixOf item.1).map fun item =>
      (item.1, ⟨item.2, false, value⟩)
  -- What follows a short spelling may be its value or more short flags.
  | '-' :: c :: rest =>
    (spellings.filter (·.1 = ['-', c])).map fun item => (item.1, ⟨item.2, true, some rest⟩)
  | _ => []

/-- Whether a text is a negative number in plain digits; one newline may follow. -/
def isNegativeNumber (word : Text) : Bool :=
  let body := if word.getLast? = some '\n' then word.dropLast else word
  match body with
  | '-' :: digits =>
    let isNumber (t : Text) : Bool := !t.isEmpty && t.all Text.isDecimalDigit
    isNumber digits ||
      match digits.dropWhile Text.isDecimalDigit with
      | '.' :: fraction => isNumber fraction
      | _ => false
  | _ => false

/-- What the word `-…` is that spells no flag exactly, or the spellings that it may be short for. A
negative number and a word with a space are operands. -/
def guess (word : Text) : Except (List Text) Role :=
  match candidates word with
  | first :: second :: rest => .error ((first :: second :: rest).map Prod.fst)
  | [(_, found)] => .ok (.flag found)
  | [] => .ok (if isNegativeNumber word || word.contains ' ' then .operand else .unknownFlag)

/-- What a word is, or the spellings that it may be short for. -/
def role (word : Text) : Except (List Text) Role :=
  if word = separatorWord then .ok .separator
  else match word with
    | '-' :: c :: _ =>
      match flagOf? word with
      | some flag => .ok (.flag ⟨flag, c ≠ '-', none⟩)
      | none =>
        match splitValue word with
        | (spelling, some value) =>
          match flagOf? spelling with
          | some flag => .ok (.flag ⟨flag, c ≠ '-', some value⟩)
          | none => guess word
        | (_, none) => guess word
    | _ => .ok .operand

end CommandLine

end HelpText
