import HelpText.Json
import HelpText.Path
import HelpText.Table
import HelpText.Text.Quoted

/-!
The values that a log record carries: how they are written into a message, how one is written inside
another, and what becomes of them in JSON.
-/

namespace HelpText

namespace Log

/-- A value of a record. -/
inductive Value where
  | null
  | boolean (value : Bool)
  | integer (value : Int)
  | float (value : Binary64)
  | text (value : Text)
  | path (value : Path)
  | list (items : List Value)
  | tuple (items : List Value)
  | mapping (rows : List (Text × Value))

instance : Inhabited Value := ⟨.null⟩

namespace Value

/-- The most decimal digits that an integer may be written with. -/
def maxDigits : Nat := 4300

def isWritable (n : Int) : Bool := (Text.decimal n.natAbs).length ≤ maxDigits

mutual

def allWritable : Value → Bool
  | .integer n => isWritable n
  | .list items => itemsWritable items
  | .tuple items => itemsWritable items
  | .mapping rows => rowsWritable rows
  | _ => true

def itemsWritable : List Value → Bool
  | [] => true
  | item :: rest => allWritable item && itemsWritable rest

def rowWritable : Text × Value → Bool
  | (_, value) => allWritable value

def rowsWritable : List (Text × Value) → Bool
  | [] => true
  | row :: rest => rowWritable row && rowsWritable rest

end

mutual

def shown : Value → Text
  | .null => .of "None"
  | .boolean true => .of "True"
  | .boolean false => .of "False"
  | .integer n => Text.decimalInt n
  | .float x => x.text
  | .text t => Text.quoted t
  | .path p => .of "PosixPath(" ++ Text.quoted p.text ++ [')']
  | .list items => '[' :: Text.join [',', ' '] (shownItems items) ++ [']']
  | .tuple [item] => '(' :: shown item ++ [',', ')']
  | .tuple items => '(' :: Text.join [',', ' '] (shownItems items) ++ [')']
  | .mapping rows => '\x7b' :: Text.join [',', ' '] (shownRows rows) ++ ['\x7d']

def shownItems : List Value → List Text
  | [] => []
  | item :: rest => shown item :: shownItems rest

def shownRow : Text × Value → Text
  | (key, value) => Text.quoted key ++ [':', ' '] ++ shown value

def shownRows : List (Text × Value) → List Text
  | [] => []
  | row :: rest => shownRow row :: shownRows rest

end

/-- A value as it is written on its own: texts and paths stand without quotation marks. -/
def plain : Value → Text
  | .text t => t
  | .path p => p.text
  | value => shown value

mutual

/-- The JSON of a value. Sequences become arrays, paths and mappings texts. -/
def toJson : Value → Json
  | .null => .null
  | .boolean b => .boolean b
  | .integer n => .integer n
  | .float x => .float x
  | .text t => .string t
  | .path p => .string p.text
  | .list items => .array (itemsJson items)
  | .tuple items => .array (itemsJson items)
  | .mapping rows => .string (shown (.mapping rows))

def itemsJson : List Value → List Json
  | [] => []
  | item :: rest => toJson item :: itemsJson rest

end

def kindWord : Value → Text
  | .null => .of "NoneType"
  | .boolean _ => .of "bool"
  | .integer _ => .of "int"
  | .float _ => .of "float"
  | .text _ => .of "str"
  | .path _ => .of "PosixPath"
  | .list _ => .of "list"
  | .tuple _ => .of "tuple"
  | .mapping _ => .of "dict"

end Value

end Log

end HelpText
