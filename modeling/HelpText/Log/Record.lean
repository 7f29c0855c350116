import HelpText.Calendar
import HelpText.Log.Template
import HelpText.Text.Uppercase

/-!
Log records and the line of JSON that each becomes.
-/

namespace HelpText

namespace Log

/-- The levels that have a name. Where a level has two, the first is shown. -/
def levelNames : List (Text × Int) :=
  [(.of "CRITICAL", 50), (.of "FATAL", 50), (.of "ERROR", 40), (.of "WARNING", 30),
    (.of "WARN", 30), (.of "INFO", 20), (.of "DEBUG", 10), (.of "NOTSET", 0)]

def debug : Int := 10

def info : Int := 20

def warning : Int := 30

def error : Int := 40

def levelText (level : Int) : Text :=
  match levelNames.find? (·.2 = level) with
  | some (name, _) => name
  | none => .of "Level " ++ Text.decimalInt level

/-- The level that a word asks for, in any case; an unknown word asks for the level of information.
-/
def levelOf (word : Text) : Int := (Table.get? levelNames (Text.upper word)).getD info

/-- Something worth a record. -/
structure Event where
  level : Int
  template : Text
  arguments : List Value := []
  extra : List (Text × Value) := []

/-- What was thrown when something failed. -/
structure Thrown where
  kind : Text
  message : Text
  deriving DecidableEq, Repr

def Thrown.text (thrown : Thrown) : Text :=
  if thrown.message = [] then thrown.kind else thrown.kind ++ [':', ' '] ++ thrown.message

/-- An event with the name of the logger that took it and the time, in seconds since the start of
1970. -/
structure Record extends Event where
  logger : Text
  created : Binary64
  thrown : Option Thrown := none

/-- Why a record cannot be written. -/
inductive Fault where
  | template (fault : Template.Fault)
  | longInteger
  | noTime
  | timeOverflow
  | yearOverflow
  | yearOutOfRange (year : Int)
  deriving DecidableEq, Repr

def Fault.text : Fault → Text
  | .template fault => fault.text
  | .longInteger => Template.Fault.longInteger.text
  | .noTime => .of "Invalid value NaN (not a number)"
  | .timeOverflow => .of "timestamp out of range for platform time_t"
  | .yearOverflow => .of "[Errno 75] Value too large for defined data type"
  | .yearOutOfRange year => .of "year " ++ Text.decimalInt year ++ .of " is out of range"

/-- The keys that records have for themselves. -/
def ownKeys : List Text :=
  [.of "name", .of "msg", .of "args", .of "levelname", .of "levelno", .of "pathname",
    .of "filename", .of "module", .of "exc_info", .of "exc_text", .of "stack_info", .of "lineno",
    .of "funcName", .of "created", .of "msecs", .of "relativeCreated", .of "thread",
    .of "threadName", .of "processName", .of "process", .of "message", .of "asctime"]

/-- The microseconds since the start of 1970. The fraction of the seconds is multiplied in binary
floating point before it is rounded to the nearest microsecond. -/
def microseconds (negative : Bool) (significand : Nat) (exponent : Int) : Int :=
  let (n, d) := Binary64.quotient significand exponent
  -- The product is a binary number itself; only then comes the rounding to an integer.
  let fraction := match Binary64.ofQuotient false (n % d * 1000000) d with
    | .finite _ s e =>
      let (n, d) := Binary64.quotient s e
      roundQuotient n d
    | _ => 0
  let total : Nat := n / d * 1000000 + fraction
  if negative then -(total : Int) else total

/-- Whether a signed word of so many bits can hold `n`. -/
def fitsWord (bits : Nat) (n : Int) : Bool :=
  let bound : Int := Int.pow 2 (bits - 1)
  n < bound && -bound ≤ n

/-- The date and time of day so many microseconds after the start of 1970. The seconds have to fit a
word of 64 bits and the years from 1900 on one of 32 bits; a year that is reported wraps around in
such a word. -/
def dateTime (microseconds : Int) : Except Fault DateTime :=
  let perDay : Int := 86400000000
  let (year, month, day) := Date.civil (microseconds.fdiv perDay)
  let rest := (microseconds.fmod perDay).toNat
  if !fitsWord 64 (microseconds.fdiv 1000000) then .error .timeOverflow
  else if !fitsWord 32 (year - 1900) then .error .yearOverflow
  else if 1 ≤ year ∧ year ≤ 9999 then
    .ok {
      date := ⟨year.toNat, month, day⟩
      time := ⟨rest / 3600000000, rest / 60000000 % 60, rest / 1000000 % 60, rest % 1000000⟩
      offset := some 0 }
  else .error (.yearOutOfRange (year.bmod (Nat.pow 2 32)))

def timestamp : Binary64 → Except Fault DateTime
  | .finite negative significand exponent => dateTime (microseconds negative significand exponent)
  | .infinite _ => .error .timeOverflow
  | .notANumber => .error .noTime

namespace Record

def message (record : Record) : Except Fault RawText :=
  (Log.message record.template record.arguments).mapError .template

def shownExtra (record : Record) : List (Text × Value) :=
  record.extra.filter fun row => row.1 ∉ ownKeys

def json (record : Record) : Except Fault Json := do
  let time ← timestamp record.created
  let message ← record.message
  let extra := record.shownExtra
  if Value.rowsWritable extra then
    pure (.object (
      [(.of "timestamp", .string time.text), (.of "level", .string (levelText record.level)),
        (.of "logger", .string record.logger), (.of "message", .rawString message)] ++
      (if extra.isEmpty then []
        else [(.of "extra", .object (extra.map fun (key, value) => (key, value.toJson)))]) ++
      (match record.thrown with
        | some thrown => [(.of "exception", .string thrown.text)]
        | none => [])))
  else .error .longInteger

def line (record : Record) : Except Fault Text := record.json.map Json.text

def bareLine (record : Record) : Except Fault Text := record.message.map Text.ofRaw

/-- The message behind its level, for readers at a terminal. -/
def shortLine (record : Record) : Except Fault Text :=
  record.bareLine.map fun message => levelText record.level ++ ' ' :: message

end Record

end Log

end HelpText
