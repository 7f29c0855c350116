import HelpText.Settings.Value

/-!
Merging given settings into defaults, table into table. A key the defaults do not have, or a value
of another kind than the default, stops the merge; what was merged before stays.
-/

namespace HelpText

namespace Settings

/-- Why a key could not be merged. The key is spelt with the tables around it. -/
inductive MergeFault where
  | unknownKey (key : Text)
  | notTable (key : Text) (found : Kind)
  | wrongKind (expected : Kind) (key : Text) (found : Kind)
  deriving DecidableEq, Repr

def MergeFault.message : MergeFault → Text
  | .unknownKey key => .of "Unknown configuration key '" ++ key ++ .of "'."
  | .notTable key found =>
    .of "Expected table for '" ++ key ++ .of "', found " ++ found.word ++ ['.']
  | .wrongKind expected key found =>
    .of "Expected " ++ expected.word ++ .of " for '" ++ key ++ .of "', found " ++ found.word ++
      ['.']

mutual

/-- What the default `current` of the key `dotted` becomes when a value is given for it. A table
takes a table only, `null` takes anything. -/
def mergeValue (dotted : Text) (current : Value) : Value → Value × Option MergeFault
  | .table rows =>
    match current with
    | .table inner =>
      let (merged, fault) := mergeRows (dotted ++ ['.']) inner rows
      (.table merged, fault)
    | .null => (.table rows, none)
    | _ => (current, some (.wrongKind current.kind dotted .table))
  | value =>
    match current with
    | .table _ => (current, some (.notTable dotted value.kind))
    | .null => (value, none)
    | _ =>
      if current.kind.accepts value.kind then (value, none)
      else (current, some (.wrongKind current.kind dotted value.kind))

/-- Merges one given row into `base`; `path` spells the tables around it. -/
def mergeRow (path : Text) (base : Rows) : Text × Value → Rows × Option MergeFault
  | (key, value) =>
    match base.get? key with
    | none => (base, some (.unknownKey (path ++ key)))
    | some current =>
      let (merged, fault) := mergeValue (path ++ key) current value
      (base.put key merged, fault)

/-- Merges given rows into `base`, one after the other, up to the first fault. -/
def mergeRows (path : Text) (base : Rows) : List (Text × Value) → Rows × Option MergeFault
  | [] => (base, none)
  | row :: rest =>
    match mergeRow path base row with
    | (merged, some fault) => (merged, some fault)
    | (merged, none) => mergeRows path merged rest

end

end Settings

end HelpText
