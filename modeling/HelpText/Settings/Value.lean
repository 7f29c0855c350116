import HelpText.Calendar
import HelpText.Number.Shortest
import HelpText.Table

/-!
The values of a settings file, and their kinds. A default without a value is `null`.
-/

namespace HelpText

namespace Settings

/-- A value, as a table of settings holds it. -/
inductive Value where
  | null
  | boolean (value : Bool)
  | integer (value : Int)
  | float (value : Binary64)
  | text (value : Text)
  | array (items : List Value)
  | table (rows : List (Text × Value))
  | dateTime (value : DateTime)
  | date (value : Date)
  | time (value : TimeOfDay)

instance : Inhabited Value := ⟨.null⟩

abbrev Rows := Table Text Value

/-- What sort of value a value is. -/
inductive Kind where
  | null
  | boolean
  | integer
  | float
  | text
  | array
  | table
  | dateTime
  | date
  | time
  deriving DecidableEq, Repr

def Value.kind : Value → Kind
  | .null => .null
  | .boolean _ => .boolean
  | .integer _ => .integer
  | .float _ => .float
  | .text _ => .text
  | .array _ => .array
  | .table _ => .table
  | .dateTime _ => .dateTime
  | .date _ => .date
  | .time _ => .time

def Kind.word : Kind → Text
  | .null => .of "NoneType"
  | .boolean => .of "bool"
  | .integer => .of "int"
  | .float => .of "float"
  | .text => .of "str"
  | .array => .of "list"
  | .table => .of "dict"
  | .dateTime => .of "datetime"
  | .date => .of "date"
  | .time => .of "time"

/-- Whether a value of kind `found` may stand where the default is of kind `expected`: the same
kind, a boolean for an integer, or a date with a time for a date. -/
def Kind.accepts (expected found : Kind) : Bool :=
  found == expected || (expected == .integer && found == .boolean) ||
    (expected == .date && found == .dateTime)

end Settings

end HelpText
