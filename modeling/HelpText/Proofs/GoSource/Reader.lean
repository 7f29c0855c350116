import HelpText.GoSource
import HelpText.Proofs.Document.Escape

/-!
Reading the generated source back. The reader knows what a compiler has to know of it: variable
declarations, raw string literals, quoted backticks and the sign that joins literals. Main
statement: it finds the texts of the documents as they were before they were escaped, whatever
stands in them.
-/

namespace HelpText

namespace GoSource

/-- Where the reader is, with what it has read of the declaration it is in. -/
inductive Reading where
  /-- Outside of declarations. -/
  | between
  /-- In the name of a variable. -/
  | naming (name : Text)
  /-- Before a literal. -/
  | operand (name value : Text)
  /-- Inside a raw string literal. -/
  | raw (name value : Text)
  /-- Behind a literal. -/
  | operator (name value : Text)

/-- The names and the values of the variables declared in a text that holds nothing else. A raw
string literal is taken as it is, and a declaration ends with the line outside of its literals. -/
def Reading.declarations : Reading → Text → Option (List (Text × Text))
  | .between, [] => some []
  | .between, '\n' :: rest => between.declarations rest
  | .between, 'v' :: 'a' :: 'r' :: ' ' :: rest => (naming []).declarations rest
  | .naming name, c :: rest =>
    if c = '=' then (operand name []).declarations rest
    else (naming (name ++ [c])).declarations rest
  | .operand name value, '\x60' :: rest => (raw name value).declarations rest
  | .operand name value, '"' :: '\x60' :: '"' :: rest =>
    (operator name (value ++ ['\x60'])).declarations rest
  | .raw name value, c :: rest =>
    if c = '\x60' then (operator name value).declarations rest
    else (raw name (value ++ [c])).declarations rest
  | .operator name value, '\n' :: rest => (between.declarations rest).map ((name, value) :: ·)
  | .operator name value, ' ' :: '+' :: ' ' :: rest => (operand name value).declarations rest
  | _, _ => none

/-- An escaped text keeps the reader inside the literal up to its end, and is read as it was. -/
theorem declarations_raw (name read value rest : Text) :
    (Reading.raw name read).declarations (Document.escapeBackticks value ++ '\x60' :: rest) =
      (Reading.operator name (read ++ value)).declarations rest := by
  induction value generalizing read with
  | nil => simp [Reading.declarations]
  | cons c value ih =>
    rw [Document.escapeBackticks_cons]
    by_cases hc : c = '\x60'
    · -- Out of the literal, over the quoted backtick, and into the next literal.
      have hescape : (Reading.raw name read).declarations
          (Document.backtickEscape ++ (Document.escapeBackticks value ++ '\x60' :: rest)) =
            (Reading.raw name (read ++ ['\x60'])).declarations
              (Document.escapeBackticks value ++ '\x60' :: rest) := by
        simp [Document.backtickEscape, Reading.declarations]
      rw [if_pos hc, List.append_assoc, hescape, ih, hc, List.append_assoc,
        List.singleton_append]
    · rw [if_neg hc, List.singleton_append, List.cons_append, Reading.declarations, if_neg hc, ih,
        List.append_assoc, List.singleton_append]

theorem declarations_name (read name rest : Text) (h : '=' ∉ name) :
    (Reading.naming read).declarations (name ++ '=' :: rest) =
      (Reading.operand (read ++ name) []).declarations rest := by
  induction name generalizing read with
  | nil => simp [Reading.declarations]
  | cons c name ih =>
    have hc : c ≠ '=' := fun hc => h (hc ▸ List.mem_cons_self ..)
    have hname : '=' ∉ name := fun hm => h (List.mem_cons_of_mem _ hm)
    rw [List.cons_append, Reading.declarations, if_neg hc, ih _ hname, List.append_assoc,
      List.singleton_append]

/-- A declaration with an escaped value is read back with the value itself. -/
theorem declarations_text (name value rest : Text) (h : '=' ∉ name) :
    Reading.between.declarations
        (Declaration.text ⟨name, Document.escapeBackticks value⟩ ++ '\n' :: rest) =
      (Reading.between.declarations rest).map ((name, value) :: ·) := by
  have htext : Declaration.text ⟨name, Document.escapeBackticks value⟩ ++ '\n' :: rest =
      'v' :: 'a' :: 'r' :: ' ' ::
        (name ++ '=' :: '\x60' :: (Document.escapeBackticks value ++ '\x60' :: '\n' :: rest)) := by
    simp [Declaration.text]
  rw [htext, Reading.declarations, declarations_name _ _ _ h, Reading.declarations,
    declarations_raw, Reading.declarations]
  simp only [List.nil_append]

/-- The text of a declaration whose value was escaped. -/
def escapedText (declaration : Text × Text) : Text :=
  Declaration.text ⟨declaration.1, Document.escapeBackticks declaration.2⟩

theorem declarations_join (pairs : List (Text × Text)) (rest : Text)
    (h : ∀ pair ∈ pairs, '=' ∉ pair.1) :
    Reading.between.declarations (Text.join ['\n'] (pairs.map escapedText) ++ '\n' :: rest) =
      (Reading.between.declarations rest).map (pairs ++ ·) := by
  induction pairs with
  | nil => simp [Text.join, Reading.declarations]
  | cons pair pairs ih =>
    have hpair := h pair (List.mem_cons_self ..)
    have hpairs := ih fun other hother => h other (List.mem_cons_of_mem _ hother)
    cases pairs with
    | nil =>
      rw [List.map_cons, List.map_nil, Text.join, escapedText, declarations_text _ _ _ hpair]
      rfl
    | cons next more =>
      rw [List.map_cons, Text.join_cons_of_ne_nil _ _ (by simp), List.append_assoc,
        List.append_assoc, List.singleton_append, escapedText, declarations_text _ _ _ hpair,
        hpairs, Option.map_map]
      rfl

theorem join_cons (separator first : Text) (rest : List Text) :
    Text.join separator (first :: rest) = first ++ rest.flatMap (separator ++ ·) := by
  induction rest generalizing first with
  | nil => simp [Text.join]
  | cons next rest ih =>
    rw [Text.join_cons_of_ne_nil _ _ (by simp), ih, List.flatMap_cons]
    simp only [List.append_assoc]

theorem render_eq (license package : Text) (documents : List Document) :
    render license package documents =
      license ++ .of "\n\n" ++ generatedMarker ++ .of "\npackage " ++ package ++ ['\n'] ++
        documents.flatMap fun document => '\n' :: declarationBlock document := by
  have hblank : Text.of "\n\n" = ['\n', '\n'] := by decide
  rw [render, join_cons, List.flatMap_cons, List.flatMap_map, packageHeader, hblank]
  simp

/-- What a field of a document says, before it is escaped. -/
def plainField (full : Bool) (content : Text) (field : Document.Field) : Text :=
  Text.joinTrimmed (Document.collected full (Text.lines content) field)

/-- The variables that a file should give, with what its fields say. -/
def plainDeclarations (full : Bool) (file : Text × Text) : List (Text × Text) :=
  ([.short, .long, .examples].filter fun field => plainField full file.2 field ≠ []).map
    fun field => (Document.deriveName file.1 ++ suffix field, plainField full file.2 field)

theorem fieldValue_parse (full : Bool) (filename content : Text) (field : Document.Field) :
    fieldValue (Document.parse full filename content) field =
      Document.escapeBackticks (plainField full content field) := by
  cases field <;> rfl

theorem declarations_parse (full : Bool) (file : Text × Text) :
    (declarations (Document.parse full file.1 file.2)).map Declaration.text =
      (plainDeclarations full file).map escapedText := by
  have hfilled (field : Document.Field) :
      (!(fieldValue (Document.parse full file.1 file.2) field).isEmpty) =
        decide (plainField full file.2 field ≠ []) := by
    rw [fieldValue_parse, Bool.eq_iff_iff]
    simp [Document.escapeBackticks_eq_nil_iff]
  simp only [declarations, plainDeclarations, hfilled, List.map_map]
  apply List.map_congr_left
  intro field _
  simp only [Function.comp_apply, escapedText, fieldValue_parse]
  rfl

theorem plainDeclarations_names (full : Bool) (file : Text × Text)
    (h : '=' ∉ Document.deriveName file.1) :
    ∀ pair ∈ plainDeclarations full file, '=' ∉ pair.1 := by
  intro pair hpair
  obtain ⟨field, -, rfl⟩ := List.mem_map.mp hpair
  have hsuffix : '=' ∉ suffix field := by cases field <;> decide
  simp [h, hsuffix]

theorem declarations_blocks (full : Bool) (files : List (Text × Text))
    (h : ∀ file ∈ files, '=' ∉ Document.deriveName file.1) :
    Reading.between.declarations
        ((files.map fun file => Document.parse full file.1 file.2).flatMap
          fun document => '\n' :: declarationBlock document) =
      some (files.flatMap (plainDeclarations full)) := by
  induction files with
  | nil => rfl
  | cons file files ih =>
    have hfile := h file (List.mem_cons_self ..)
    have hfiles := ih fun other hother => h other (List.mem_cons_of_mem _ hother)
    -- The newline before a block is skipped, then the block is read with the others behind it.
    rw [List.map_cons, List.flatMap_cons, declarationBlock, declarations_parse, List.cons_append,
      Reading.declarations, List.append_assoc, List.singleton_append,
      declarations_join _ _ (plainDeclarations_names full file hfile), hfiles]
    rfl

/-- The generated file declares what the documents say, each text as it was before it was escaped.
Of the names nothing is asked but that they hold no equals sign, as names of letters, digits and
underscores do not. -/
theorem declarations_render (full : Bool) (files : List (Text × Text)) (license package : Text)
    (h : ∀ file ∈ files, '=' ∉ Document.deriveName file.1) :
    ∃ rest : Text,
      render license package (files.map fun file => Document.parse full file.1 file.2) =
        license ++ .of "\n\n" ++ generatedMarker ++ .of "\npackage " ++ package ++ ['\n'] ++
          rest ∧
      Reading.between.declarations rest = some (files.flatMap (plainDeclarations full)) :=
  ⟨_, render_eq license package _, declarations_blocks full files h⟩

/-- A file whose text tries to close the literal and to declare a variable of its own. -/
def hostileFile : Text × Text :=
  (.of "my-cmd.md", .of "## t\nUse `kpt` + it.\n### Synopsis\n```\n`\nvar X=`y``\n")

theorem declarations_render_hostile :
    (∀ file ∈ [hostileFile], '=' ∉ Document.deriveName file.1) ∧
      ∃ rest : Text,
        render [] (.of "docs") ([hostileFile].map fun file => Document.parse false file.1 file.2) =
          [] ++ Text.of "\n\n" ++ generatedMarker ++ Text.of "\npackage " ++ Text.of "docs" ++
            ['\n'] ++ rest ∧
        Reading.between.declarations rest =
          some [(.of "MyCmdShort", .of "Use `kpt` + it."),
            (.of "MyCmdLong", .of "\t`\n\tvar X=`y``")] := by
  have hnames : ∀ file ∈ [hostileFile], '=' ∉ Document.deriveName file.1 := by decide +kernel
  have hplain : [hostileFile].flatMap (plainDeclarations false) =
      [(.of "MyCmdShort", .of "Use `kpt` + it."),
        (.of "MyCmdLong", .of "\t`\n\tvar X=`y``")] := by decide +kernel
  rw [← hplain]
  exact ⟨hnames, declarations_render false [hostileFile] [] (.of "docs") hnames⟩

end GoSource

end HelpText
