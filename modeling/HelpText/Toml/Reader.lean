import HelpText.Toml.Scalar

/-!
TOML 1.0 documents. A document is read statement by statement; beside the data it is kept which
tables have been declared and which values are closed to additions.
-/

namespace HelpText

namespace Toml

open Settings (Value Rows)

/-- A dotted key: the keys from the outermost table in. -/
abbrev Key := List Text

/-- Changes the table that a dotted key leads to. Missing tables are made on the way; where arrays
may be entered, an array stands for its last table. -/
def within (enterArrays : Bool) (change : Rows → Except Fault Rows) : Key → Rows → Except Fault Rows
  | [], rows => change rows
  | key :: path, rows =>
    match rows.get? key with
    | none => (within enterArrays change path []).map fun inner => rows.put key (.table inner)
    | some (.table inner) =>
      (within enterArrays change path inner).map fun inner => rows.put key (.table inner)
    | some (.array items) =>
      match enterArrays, items.getLast? with
      | true, some (.table inner) =>
        (within enterArrays change path inner).map fun inner =>
          rows.put key (.array (items.dropLast ++ [.table inner]))
      | _, _ => .error .malformed
    | some _ => .error .malformed

/-- Adds a row to a table that does not have its key yet. -/
def addRow (key : Text) (value : Value) (rows : Rows) : Except Fault Rows :=
  if (rows.get? key).isSome then .error .malformed else .ok (rows.put key value)

/-- Whether one of `closed` is `key` or stands around it. -/
def covers (closed : List Key) (key : Key) : Bool := closed.any (·.isPrefixOf key)

/-- Whether a value has parts: nothing may be added to one that is written out. -/
def hasParts : Value → Bool
  | .array _ | .table _ => true
  | _ => false

def isBareKeyChar (c : Char) : Bool := c.isAlphanum || c == '-' || c == '_'

def keyPart : Text → Reading Text
  | '\'' :: rest => literalString rest
  | '"' :: rest => basicString rest
  | t =>
    let bare := t.takeWhile isBareKeyChar
    if bare.isEmpty then .error .malformed else .ok (bare, t.dropWhile isBareKeyChar)

/-- A dotted key with the spaces behind it; `fuel` bounds its parts. -/
def keyFrom : (fuel : Nat) → Text → Except Fault (Key × Text)
  | 0, _ => .error .malformed
  | fuel + 1, t => do
    let (part, rest) ← keyPart t
    match rest.dropWhile isSpace with
    | '.' :: rest =>
      let (parts, rest) ← keyFrom fuel (rest.dropWhile isSpace)
      pure (part :: parts, rest)
    | rest => pure ([part], rest)

def key (t : Text) : Reading Key := keyFrom (t.length + 1) t

def comment : Text → Except Fault Text
  | [] => .ok []
  | '\n' :: rest => .ok ('\n' :: rest)
  | c :: rest => if isControl c then .error .malformed else comment rest

def skipLines : (inComment : Bool) → Text → Except Fault Text
  | _, [] => .ok []
  | true, c :: rest =>
    if c = '\n' then skipLines false rest
    else if isControl c then .error .malformed else skipLines true rest
  | false, c :: rest =>
    if isSpaceOrNewline c then skipLines false rest
    else if c = '#' then skipLines true rest
    else .ok (c :: rest)

mutual

/-- A value; `fuel` bounds how often values, items and pairs are entered. -/
def value : (fuel : Nat) → Text → Except Fault (Value × Text)
  | 0, _ => .error .malformed
  | fuel + 1, t =>
    match t with
    | '"' :: '"' :: '"' :: rest =>
      (basicLines .none (dropFirstNewline rest)).map fun (opening, rest) => (.text opening, rest)
    | '"' :: rest => (basicString rest).map fun (t, rest) => (.text t, rest)
    | '\'' :: '\'' :: '\'' :: rest =>
      (literalLines (dropFirstNewline rest)).map fun (t, rest) => (.text t, rest)
    | '\'' :: rest => (literalString rest).map fun (t, rest) => (.text t, rest)
    | '[' :: rest => do
      let (items, rest) ← items fuel (← skipLines false rest)
      pure (.array items, rest)
    | '{' :: rest =>
      match rest.dropWhile isSpace with
      | '}' :: rest => .ok (.table [], rest)
      | rest => do
        let (rows, rest) ← pairs fuel [] [] rest
        pure (.table rows, rest)
    | t => scalar t

def items : (fuel : Nat) → Text → Except Fault (List Value × Text)
  | 0, _ => .error .malformed
  | _ + 1, ']' :: rest => .ok ([], rest)
  | fuel + 1, t => do
    let (item, rest) ← value fuel t
    match ← skipLines false rest with
    | ']' :: rest => pure ([item], rest)
    | ',' :: rest =>
      let (more, rest) ← items fuel (← skipLines false rest)
      pure (item :: more, rest)
    | _ => .error .malformed

/-- The pairs of an inline table up to its closing brace, added to `rows`; nothing is added to the
values of the keys in `closed`. -/
def pairs : (fuel : Nat) → Rows → (closed : List Key) → Text → Except Fault (Rows × Text)
  | 0, _, _, _ => .error .malformed
  | fuel + 1, rows, closed, t => do
    let (path, rest) ← key t
    let rest ← (behind? '=' rest).elim (.error .malformed) .ok
    let (value, rest) ← value fuel (rest.dropWhile isSpace)
    if covers closed path then .error .malformed
    else
      let rows ← within false (addRow (path.getLastD []) value) path.dropLast rows
      match rest.dropWhile isSpace with
      | '}' :: rest => pure (rows, rest)
      | ',' :: rest =>
        pairs fuel rows (if hasParts value then path :: closed else closed) (rest.dropWhile isSpace)
      | _ => .error .malformed

end

/-- What is known while a document is read. -/
structure Reader where
  data : Rows := []
  /-- The table that the rows read now belong to. -/
  header : Key := []
  /-- Tables that may not be declared again. -/
  declared : List Key := []
  /-- Tables that dotted keys opened in the present section; they count as declared after it. -/
  opened : List Key := []
  /-- Values that are closed to additions. -/
  closed : List Key := []

def Reader.pair (reader : Reader) (t : Text) : Except Fault (Reader × Text) := do
  let (path, rest) ← key t
  let rest ← (behind? '=' rest).elim (.error .malformed) .ok
  let (value, rest) ← value (2 * t.length + 2) (rest.dropWhile isSpace)
  let tables := ((List.range path.length).drop 1).map fun n => reader.header ++ path.take n
  let table := reader.header ++ path.dropLast
  if tables.any reader.declared.contains || covers reader.closed table then .error .malformed
  else
    let data ← within true (addRow (path.getLastD []) value) table reader.data
    pure ({ reader with
      data
      opened := tables ++ reader.opened
      closed :=
        if hasParts value then (reader.header ++ path) :: reader.closed else reader.closed }, rest)

/-- A section ends where the next begins: the tables it opened are declared from there on. -/
def Reader.endSection (reader : Reader) : Reader :=
  { reader with declared := reader.opened ++ reader.declared, opened := [] }

def Reader.tableHeader (reader : Reader) (t : Text) : Except Fault (Reader × Text) := do
  let (path, rest) ← key (t.dropWhile isSpace)
  if reader.declared.contains path || covers reader.closed path then .error .malformed
  else
    let data ← within true .ok path reader.data
    let rest ← (behind? ']' rest).elim (.error .malformed) .ok
    pure ({ reader with data, header := path, declared := path :: reader.declared }, rest)

def appendTable (key : Text) (rows : Rows) : Except Fault Rows :=
  match rows.get? key with
  | none => .ok (rows.put key (.array [.table []]))
  | some (.array items) => .ok (rows.put key (.array (items ++ [.table []])))
  | some _ => .error .malformed

/-- The header of a table in an array of tables, behind its two brackets. What was said of the
tables in the one before does not hold for the new one. -/
def Reader.arrayHeader (reader : Reader) (t : Text) : Except Fault (Reader × Text) := do
  let (path, rest) ← key (t.dropWhile isSpace)
  if covers reader.closed path then .error .malformed
  else
    let data ← within true (appendTable (path.getLastD [])) path.dropLast reader.data
    let rest ← (behind? ']' rest).elim (.error .malformed) .ok
    let rest ← (behind? ']' rest).elim (.error .malformed) .ok
    -- The tables of an array share their keys, not what was declared in them.
    let outside (key : Key) : Bool := !path.isPrefixOf key
    pure ({ reader with
      data
      header := path
      declared := path :: reader.declared.filter outside
      closed := reader.closed.filter outside }, rest)

/-- The end of a statement: spaces, a comment, and a newline or the end of the document. -/
def endOfStatement (t : Text) : Except Fault Text := do
  let rest ← match t.dropWhile isSpace with
    | '#' :: rest => comment rest
    | rest => .ok rest
  match rest with
  | [] => .ok []
  | '\n' :: rest => .ok rest
  | _ => .error .malformed

/-- Reads statement after statement; `fuel` bounds their number. -/
def Reader.run : (fuel : Nat) → Reader → Text → Except Fault Rows
  | 0, _, _ => .error .malformed
  | fuel + 1, reader, t =>
    match t.dropWhile isSpace with
    | [] => .ok reader.data
    | '\n' :: rest => reader.run fuel rest
    | '#' :: rest => do reader.run fuel (← endOfStatement ('#' :: rest))
    | '[' :: '[' :: rest => do
      let (next, rest) ← reader.endSection.arrayHeader rest
      next.run fuel (← endOfStatement rest)
    | '[' :: rest => do
      let (next, rest) ← reader.endSection.tableHeader rest
      next.run fuel (← endOfStatement rest)
    | t => do
      let (next, rest) ← reader.pair t
      next.run fuel (← endOfStatement rest)

/-- A carriage return before a newline belongs to it. -/
def joinNewlines : Text → Text
  | '\r' :: '\n' :: rest => '\n' :: joinNewlines rest
  | c :: rest => c :: joinNewlines rest
  | [] => []

def read (t : Text) : Except Fault Rows :=
  let t := joinNewlines t
  Reader.run (t.length + 1) {} t

end Toml

end HelpText
