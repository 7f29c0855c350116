import HelpText.CommandLine.Flag
import HelpText.Settings.Basic

/-!
Reading the arguments of an invocation. The words are sorted into flags and operands first; then
they are taken from left to right, and the first that cannot be taken ends the reading.
-/

namespace HelpText

namespace CommandLine

/-- Why arguments are refused. -/
inductive UsageFault where
  | ambiguous (word : Text) (spellings : List Text)
  | unusedValue (flag : Flag) (value : Text)
  | missingValue (flag : Flag)
  | notBoolean (fault : Settings.Fault)
  | missingOperands (names : List Text)
  | unknownWords (words : List Text)
  deriving DecidableEq, Repr

def UsageFault.message : UsageFault → Text
  | .ambiguous word spellings =>
    .of "ambiguous option: " ++ word ++ .of " could match " ++ Text.join (.of ", ") spellings
  | .unusedValue flag value =>
    .of "argument " ++ flag.text ++ .of ": ignored explicit argument " ++ Text.quoted value
  | .missingValue flag => .of "argument " ++ flag.text ++ .of ": expected one argument"
  | .notBoolean fault =>
    .of "argument " ++ Flag.full.text ++ .of ": " ++ fault.message ++
      .of " A bare --full must follow DEST_DIR; elsewhere write --full=true."
  | .missingOperands names =>
    .of "the following arguments are required: " ++ Text.join (.of ", ") names
  | .unknownWords words => .of "unrecognized arguments: " ++ Text.join [' '] words

/-- How the reading ends early: something is only to be shown, or the arguments are refused. -/
inductive Halt where
  | help
  | version
  | refused (fault : UsageFault)
  deriving DecidableEq, Repr

/-- What the flags say. A path that was given without a value is `some none`. -/
structure Choices where
  overrides : Settings.Overrides := {}
  settingsFile : Option (Option Path) := none
  logFile : Option (Option Path) := none
  verbose : Bool := false
  deriving DecidableEq, Repr

/-- An operand. Behind the separator a word equal to it gives none. -/
abbrev Operand := Option Text

/-- The arguments taken so far. -/
structure Progress where
  operands : List Operand := []
  choices : Choices := {}
  unknown : List Text := []
  deriving DecidableEq, Repr

def operandNames : List Text := [.of "SOURCE_DIR", .of "DEST_DIR"]

def Progress.hasRoom (progress : Progress) : Bool := progress.operands.length < operandNames.length

/-- Takes an operand, or puts the word to those that nobody asked for. -/
def Progress.addOperand (progress : Progress) (word : Text) (operand : Operand) : Progress :=
  if progress.hasRoom then { progress with operands := progress.operands ++ [operand] }
  else { progress with unknown := progress.unknown ++ [word] }

/-- Takes a flag with the value given for it. A value equal to the separator counts as none. -/
def Choices.add (choices : Choices) (flag : Flag) (value : Option Text) : Except Halt Choices :=
  let value := value.filter (· ≠ separatorWord)
  let overrides := choices.overrides
  match flag with
  | .help => .error .help
  | .version => .error .version
  | .full =>
    match value with
    | none => .ok { choices with overrides := { overrides with full := some true } }
    | some word =>
      match Settings.readBoolean word with
      | .ok b => .ok { choices with overrides := { overrides with full := some b } }
      | .error fault => .error (.refused (.notBoolean fault))
  | .license => .ok { choices with overrides := { overrides with license := some (value.getD []) } }
  | .settingsFile => .ok { choices with settingsFile := some (value.map Path.read) }
  | .noSort => .ok { choices with overrides := { overrides with sort := some false } }
  | .strictNames => .ok { choices with overrides := { overrides with strictNames := some true } }
  | .outputName =>
    .ok { choices with overrides := { overrides with outputName := some (value.getD []) } }
  | .logLevel =>
    .ok { choices with overrides := { overrides with logLevel := some (value.getD []) } }
  | .logFile =>
    .ok {
      choices with
      logFile := some (value.map Path.read)
      overrides := { overrides with logFile := value.map Path.read } }
  | .verbose => .ok { choices with verbose := true }

def Choices.addAll (choices : Choices) : List Flag → Except Halt Choices
  | [] => .ok choices
  | flag :: rest =>
    match choices.add flag none with
    | .ok choices => choices.addAll rest
    | .error halt => .error halt

/-- The flags that the letters behind the short flag `flag` stand for, and that flag before them. -/
def cluster (flag : Flag) : Text → Except UsageFault (List Flag)
  | [] => .ok [flag]
  | c :: rest =>
    match flagOf? ['-', c] with
    | some next => (cluster next rest).map (flag :: ·)
    | none => .error (.unusedValue flag (c :: rest))

def Choices.addWithValue (choices : Choices) (flag : Flag) (isShort : Bool) (value : Text) :
    Except Halt Choices :=
  match flag.arity with
  | .none =>
    if isShort && !value.isEmpty then
      match cluster flag value with
      | .ok flags => choices.addAll flags
      | .error fault => .error (.refused fault)
    else .error (.refused (.unusedValue flag value))
  | _ => choices.add flag (some value)

/-- A word with its role. -/
structure Word where
  text : Text
  role : Role
  deriving DecidableEq, Repr

/-- Gives every word its role; behind the separator all are operands. -/
def sortWords : List Text → Except UsageFault (List Word)
  | [] => .ok []
  | text :: rest =>
    match role text with
    | .error spellings => .error (.ambiguous text spellings)
    | .ok .separator => .ok (⟨text, .separator⟩ :: rest.map fun text => ⟨text, .operand⟩)
    | .ok role => (sortWords rest).map (⟨text, role⟩ :: ·)

def lateOperand (word : Text) : Operand := if word = separatorWord then none else some word

def Progress.addLate (progress : Progress) (words : List Text) : Progress :=
  words.foldl (fun progress word => progress.addOperand word (lateOperand word)) progress

/-- Takes the separator and the words behind it. It belongs to the operand before it, if there is
one, or else to the one after it, which is then taken as it is. -/
def Progress.addSeparated (progress : Progress) (afterOperand : Bool) (words : List Text) :
    Progress :=
  if afterOperand then progress.addLate words
  else match words with
    | word :: rest =>
      if progress.hasRoom then (progress.addOperand word (some word)).addLate rest
      else { progress with unknown := progress.unknown ++ separatorWord :: word :: rest }
    | [] => { progress with unknown := progress.unknown ++ [separatorWord] }

/-- Takes the words one after the other. `afterOperand` says whether the word before was an operand
that was expected. -/
def Progress.addWords (afterOperand : Bool) (progress : Progress) : List Word → Except Halt Progress
  | [] => .ok progress
  | ⟨text, .operand⟩ :: rest =>
    (progress.addOperand text (some text)).addWords progress.hasRoom rest
  | ⟨_, .separator⟩ :: rest => .ok (progress.addSeparated afterOperand (rest.map Word.text))
  | ⟨text, .unknownFlag⟩ :: rest =>
    { progress with unknown := progress.unknown ++ [text] }.addWords false rest
  | ⟨_, .flag ⟨flag, isShort, some value⟩⟩ :: rest =>
    match progress.choices.addWithValue flag isShort value with
    | .ok choices => { progress with choices }.addWords false rest
    | .error halt => .error halt
  | ⟨_, .flag ⟨flag, _, none⟩⟩ :: rest =>
    match flag.arity, rest with
    | .none, rest =>
      match progress.choices.add flag none with
      | .ok choices => { progress with choices }.addWords false rest
      | .error halt => .error halt
    -- A flag takes the operand behind it before any directory does.
    | _, ⟨value, .operand⟩ :: later =>
      match progress.choices.add flag (some value) with
      | .ok choices => { progress with choices }.addWords false later
      | .error halt => .error halt
    | .optional, rest =>
      match progress.choices.add flag none with
      | .ok choices => { progress with choices }.addWords false rest
      | .error halt => .error halt
    | .one, _ => .error (.refused (.missingValue flag))

/-- The arguments of an invocation. -/
structure Arguments where
  source : Path
  destination : Option Path
  choices : Choices
  deriving DecidableEq, Repr

def Progress.finish (progress : Progress) : Except Halt Arguments :=
  match progress.operands with
  | source :: destination :: _ =>
    if progress.unknown = [] then
      .ok {
        source := Path.read (source.getD [])
        destination := destination.map Path.read
        choices := progress.choices }
    else .error (.refused (.unknownWords progress.unknown))
  | operands => .error (.refused (.missingOperands (operandNames.drop operands.length)))

def Arguments.read (words : List Text) : Except Halt Arguments :=
  match sortWords words with
  | .ok words =>
    match ({} : Progress).addWords false words with
    | .ok progress => progress.finish
    | .error halt => .error halt
  | .error fault => .error (.refused fault)

end CommandLine

end HelpText
