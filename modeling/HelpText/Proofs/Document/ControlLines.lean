import HelpText.Proofs.Document.Positions

/-!
Which lines of a document reach its fields. The scanner collects no control line, but the search for
the short description takes the first line that is not blank, whatever it is. Main statement:
control lines stay out of all fields, and the tabs follow the fences, exactly where the line of the
short description is a text line.
-/

namespace HelpText

namespace Document

/-- What one line does to the scan: the state behind it, and what it adds to which field. -/
inductive Scan.Step (full : Bool) (scan : Scan) (line : Text) : Scan → Option (Field × Text) → Prop
  | title (h : scan.title = .awaited) (hline : titleHeading.isPrefixOf line = true) :
      Step full scan line { scan with title := .seen } none
  | skipped (h : scan.title = .seen) (hline : Text.isBlank line = true) :
      Step full scan line scan none
  | short (h : scan.title = .seen) (hline : Text.isBlank line = false) :
      Step full scan line { scan with title := .taken } (some (.short, line))
  | control (h : scan.title ≠ .seen) (hline : isTextLine full line = false) :
      Step full scan line { scan with body := (scan.body.advance full line).1 } none
  | text (h : scan.title ≠ .seen) (hline : isTextLine full line = true) :
      Step full scan line scan
        ((scan.body.field full).map fun field => (field, scan.body.indent line))

theorem advance_snd (full : Bool) (state : ScanState) (line : Text) :
    (state.advance full line).2 = !isTextLine full line := by
  rw [advance_eq, isTextLine]
  cases isHeading full line <;> cases isFence line <;> rfl

theorem advance_of_text {full : Bool} {state : ScanState} {line : Text}
    (h : isTextLine full line = true) : state.advance full line = (state, false) := by
  rw [isTextLine, Bool.and_eq_true, Bool.not_eq_true', Bool.not_eq_true'] at h
  rw [advance_eq, h.1, h.2]
  rfl

/-- In the body a line adds to a field only if it is a text line. -/
theorem body_step (full : Bool) {scan : Scan} (line : Text) (h : scan.title ≠ .seen) :
    Scan.Step full scan line { scan with body := (scan.body.feed full line).1 }
      (scan.body.feed full line).2 := by
  by_cases htext : isTextLine full line = true
  · have hfeed : scan.body.feed full line =
        (scan.body, (scan.body.field full).map fun field => (field, scan.body.indent line)) := by
      rw [ScanState.feed, advance_of_text htext]
    rw [hfeed]
    exact .text h htext
  · have hcontrol : isTextLine full line = false := by simpa using htext
    have hfeed : scan.body.feed full line = ((scan.body.advance full line).1, none) := by
      have hsnd := advance_snd full scan.body line
      rw [hcontrol] at hsnd
      rw [ScanState.feed]
      rcases hadvance : scan.body.advance full line with ⟨next, control⟩
      rw [hadvance] at hsnd
      rw [show control = true from hsnd]
    rw [hfeed]
    exact .control h hcontrol

theorem feed_step (full : Bool) (scan : Scan) (line : Text) :
    Scan.Step full scan line (scan.feed full line).1 (scan.feed full line).2 := by
  rw [Scan.feed]
  split
  · next h =>
    by_cases hblank : Text.isBlank line = true
    · rw [if_pos hblank]
      exact .skipped h hblank
    · rw [if_neg hblank]
      exact .short h (by simpa using hblank)
  · next h =>
    by_cases htitle : titleHeading.isPrefixOf line = true
    · rw [if_pos htitle]
      exact .title h htitle
    · rw [if_neg htitle]
      exact body_step full line (by rw [h]; decide)
  · next h => exact body_step full line (by rw [h]; decide)

theorem isFence_of_title {line : Text} (h : titleHeading.isPrefixOf line = true) :
    isFence line = false := by
  obtain ⟨rest, rfl⟩ := List.isPrefixOf_iff_prefix.mp h
  rfl

/-- A blank line begins with no marker that holds something. -/
theorem not_isPrefixOf_of_isBlank {marker line : Text} (hmarker : Text.isBlank marker = false)
    (h : Text.isBlank line = true) : marker.isPrefixOf line = false := by
  by_contra hprefix
  rw [Bool.not_eq_false, List.isPrefixOf_iff_prefix] at hprefix
  obtain ⟨rest, rfl⟩ := hprefix
  rw [Text.isBlank, List.all_append, Bool.and_eq_true] at h
  rw [Text.isBlank, h.1] at hmarker
  cases hmarker

theorem isFence_of_isBlank {line : Text} (h : Text.isBlank line = true) : isFence line = false :=
  not_isPrefixOf_of_isBlank (by decide) h

theorem isFence_of_isTextLine {full : Bool} {line : Text} (h : isTextLine full line = true) :
    isFence line = false := by
  rw [isTextLine, Bool.and_eq_true] at h
  simpa using h.2

theorem advance_inCodeBlock (full : Bool) (state : ScanState) (line : Text) :
    (state.advance full line).1.inCodeBlock = (state.inCodeBlock ^^ isFence line) := by
  rw [advance_eq]
  by_cases hheading : isHeading full line = true
  · rw [if_pos hheading, isFence_eq_false_of_isHeading hheading, Bool.xor_false]
  · rw [if_neg hheading]
    cases isFence line <;> simp

/-- The code state is turned over by the fences, apart from one that is taken for the short
description. -/
theorem Scan.Step.inCodeBlock {full : Bool} {scan next : Scan} {line : Text}
    {item : Option (Field × Text)} (h : Scan.Step full scan line next item)
    (hshort : ∀ text, item = some (.short, text) → isFence text = false) :
    next.body.inCodeBlock = (scan.body.inCodeBlock ^^ isFence line) := by
  cases h with
  | title _ hline => rw [isFence_of_title hline, Bool.xor_false]
  | skipped _ hline => rw [isFence_of_isBlank hline, Bool.xor_false]
  | short => rw [hshort line rfl, Bool.xor_false]
  | control => exact advance_inCodeBlock full scan.body line
  | text _ hline => rw [isFence_of_isTextLine hline, Bool.xor_false]

/-- A body feeds the long description or the examples. -/
theorem field_ne_short (full : Bool) (state : ScanState) : state.field full ≠ some .short := by
  rw [ScanState.field]
  cases full <;> cases state.current <;> simp

/-- What the search adds to the short description is the line itself. All else is a text line,
indented as the code state says. -/
theorem Scan.Step.added {full : Bool} {scan next : Scan} {line text : Text} {field : Field}
    (h : Scan.Step full scan line next (some (field, text))) :
    (scan.title = .seen ∧ field = .short ∧ text = line) ∨
      (field ≠ .short ∧ isTextLine full line = true ∧ text = scan.body.indent line) := by
  generalize hitem : some (field, text) = item at h
  cases h with
  | title => cases hitem
  | skipped => cases hitem
  | control => cases hitem
  | short hseen =>
    cases hitem
    exact Or.inl ⟨hseen, rfl, rfl⟩
  | text _ hline =>
    obtain ⟨fed, hfed, heq⟩ := Option.map_eq_some_iff.mp hitem.symm
    cases heq
    refine Or.inr ⟨?_, hline, rfl⟩
    intro hshort
    exact field_ne_short full scan.body (hshort ▸ hfed)

/-- The state of a scan behind `lines`. -/
def Scan.after (full : Bool) : Scan → List Text → Scan
  | scan, [] => scan
  | scan, line :: rest => (scan.feed full line).1.after full rest

theorem Scan.after_append (full : Bool) (scan : Scan) (first second : List Text) :
    scan.after full (first ++ second) = (scan.after full first).after full second := by
  induction first generalizing scan with
  | nil => rfl
  | cons line first ih => exact ih _

theorem Scan.items_append (full : Bool) (scan : Scan) (first second : List Text) :
    scan.items full (first ++ second) =
      scan.items full first ++ (scan.after full first).items full second := by
  induction first generalizing scan with
  | nil => rfl
  | cons line first ih =>
    rw [List.cons_append, Scan.items, Scan.items, Scan.after]
    rcases scan.feed full line with ⟨next, _ | item⟩
    · exact ih next
    · exact congrArg (item :: ·) (ih next)

/-- What the line at a position adds to which field. -/
def Scan.contribution (full : Bool) (scan : Scan) (lines : List Text) (position : Nat) :
    Option (Field × Text) :=
  ((scan.after full (lines.take position)).feed full (lines.getD position [])).2

/-- A scan collects what the lines contribute, position by position. -/
theorem items_eq_contributions (full : Bool) (scan : Scan) (lines : List Text) :
    scan.items full lines = (List.range lines.length).filterMap (scan.contribution full lines) := by
  induction lines generalizing scan with
  | nil => rfl
  | cons line rest ih =>
    have hrest : (List.range rest.length).filterMap
        (scan.contribution full (line :: rest) ∘ Nat.succ) =
          (scan.feed full line).1.items full rest := by
      rw [ih]
      rfl
    have hfirst : scan.contribution full (line :: rest) 0 = (scan.feed full line).2 := rfl
    rw [List.length_cons, List.range_succ_eq_map, List.filterMap_cons, hfirst, List.filterMap_map,
      hrest, Scan.items]
    rcases scan.feed full line with ⟨next, item⟩
    cases item <;> rfl

/-- The lines that a document contributes to `field`, in source order. -/
def contributed (full : Bool) (lines : List Text) (field : Field) : List Text :=
  ((List.range lines.length).filterMap (({} : Scan).contribution full lines)).filterMap fun item =>
    if item.1 = field then some item.2 else none

/-- The document that is made of what its lines contribute. -/
def byContributions (full : Bool) (filename content : Text) : Document :=
  let field := fun field =>
    escapeBackticks (Text.joinTrimmed (contributed full (Text.lines content) field))
  { name := deriveName filename
    short := field .short
    long := field .long
    examples := field .examples }

theorem parse_eq_byContributions (full : Bool) (filename content : Text) :
    parse full filename content = byContributions full filename content := by
  have hcollected (field : Field) :
      collected full (Text.lines content) field = contributed full (Text.lines content) field := by
    rw [collected, items_eq_contributions, contributed]
  rw [parse, byContributions, hcollected, hcollected, hcollected]

variable {full : Bool} {lines : List Text}

theorem contribution_added {position : Nat} {field : Field} {text : Text}
    (h : ({} : Scan).contribution full lines position = some (field, text)) :
    (field = .short ∧ text = lines.getD position []) ∨
      (field ≠ .short ∧ isTextLine full (lines.getD position []) = true ∧
        text = (({} : Scan).after full (lines.take position)).body.indent
          (lines.getD position [])) := by
  have hstep := feed_step full (({} : Scan).after full (lines.take position))
    (lines.getD position [])
  rw [← Scan.contribution, h] at hstep
  rcases hstep.added with ⟨-, hshort, htext⟩ | hbody
  · exact Or.inl ⟨hshort, htext⟩
  · exact Or.inr hbody

/-- The invariant of the scan: as long as no fence was taken for the short description, the code
state is the parity of the fences. -/
theorem after_inCodeBlock {position : Nat} (hposition : position ≤ lines.length)
    (hshort : ∀ earlier < position, ∀ text,
      ({} : Scan).contribution full lines earlier = some (.short, text) → isFence text = false) :
    (({} : Scan).after full (lines.take position)).body.inCodeBlock =
      ((lines.take position).countP isFence % 2 == 1) := by
  induction position with
  | zero => rfl
  | succ position ih =>
    have hlt : position < lines.length := by omega
    have hline : lines.getD position [] = lines[position] := List.getD_eq_getElem _ _ hlt
    have hbefore := ih hlt.le fun earlier hearlier => hshort earlier (by omega)
    have hstep := (feed_step full (({} : Scan).after full (lines.take position))
      (lines.getD position [])).inCodeBlock (hshort position (by omega))
    rw [List.take_succ_eq_append_getElem hlt, Scan.after_append, List.countP_append,
      List.countP_singleton, ← hline]
    change ((({} : Scan).after full (lines.take position)).feed full
      (lines.getD position [])).1.body.inCodeBlock = _
    rw [hstep, hbefore]
    -- One more fence turns the parity over.
    rcases Nat.mod_two_eq_zero_or_one ((lines.take position).countP isFence) with hmod | hmod <;>
      cases isFence (lines.getD position []) <;> simp [Nat.add_mod, hmod]

theorem short_not_mem_items (full : Bool) (state : ScanState) (body : List Text) (text : Text) :
    (Field.short, text) ∉ state.items full body := by
  induction body generalizing state with
  | nil => simp [ScanState.items]
  | cons line rest ih =>
    rw [ScanState.items, List.mem_append, not_or]
    refine ⟨?_, ih _⟩
    intro hmem
    have hfed : (state.feed full line).2 = some (.short, text) := by simpa using hmem
    have htitle : (⟨.awaited, state⟩ : Scan).title ≠ .seen := by simp
    have hstep := body_step full line htitle
    rw [hfed] at hstep
    rcases hstep.added with ⟨hseen, -⟩ | ⟨hne, -⟩
    · exact htitle hseen
    · exact hne rfl

/-- The one line that is added to the short description is that of its position. -/
theorem short_mem_items_iff (full : Bool) (lines : List Text) (text : Text) :
    (Field.short, text) ∈ ({} : Scan).items full lines ↔
      text = (shortAndBody lines).1 ∧ text ≠ [] := by
  obtain ⟨before, after, -, hitems, -⟩ := items_shortAndBody full lines
  have hbefore := short_not_mem_items full {} before text
  have hafter := short_not_mem_items full (({} : ScanState).after full before) after text
  rw [hitems, List.mem_append, List.mem_append, shortItems]
  split
  · next hnone => simp [hbefore, hafter, hnone]
  · next hsome =>
    simp only [hbefore, hafter, false_or, or_false, List.mem_singleton, Prod.mk.injEq, true_and]
    constructor
    · intro htext
      exact ⟨htext, htext ▸ hsome⟩
    · intro htext
      exact htext.1

theorem short_contributed_iff (full : Bool) (lines : List Text) (text : Text) :
    (∃ position < lines.length,
      ({} : Scan).contribution full lines position = some (.short, text)) ↔
        text = (shortAndBody lines).1 ∧ text ≠ [] := by
  rw [← short_mem_items_iff full, items_eq_contributions, List.mem_filterMap]
  simp only [List.mem_range]

/-- Only text lines are added to a field, and what is added to the long description or the examples
stands behind a tab exactly if the number of fences before it is odd. -/
structure KeepsControlApart (full : Bool) (lines : List Text) : Prop where
  isText : ∀ position < lines.length, ∀ field text,
    ({} : Scan).contribution full lines position = some (field, text) →
      isTextLine full (lines.getD position []) = true
  indented : ∀ position < lines.length, ∀ field text,
    ({} : Scan).contribution full lines position = some (field, text) → field ≠ .short →
      text = if (lines.take position).countP isFence % 2 = 1 then '\t' :: lines.getD position []
        else lines.getD position []

theorem keepsControlApart_of_text (h : isTextLine full (shortAndBody lines).1 = true) :
    KeepsControlApart full lines := by
  have hshort : ∀ position < lines.length, ∀ text,
      ({} : Scan).contribution full lines position = some (.short, text) →
        isTextLine full text = true := by
    intro position hposition text htext
    have htaken := (short_contributed_iff full lines text).mp ⟨position, hposition, htext⟩
    rw [htaken.1]
    exact h
  constructor
  · intro position hposition field text htext
    rcases contribution_added htext with ⟨rfl, heq⟩ | ⟨-, hline, -⟩
    · rw [← heq]
      exact hshort position hposition text htext
    · exact hline
  · intro position hposition field text htext hfield
    rcases contribution_added htext with ⟨hfield', -⟩ | ⟨-, -, hindent⟩
    · exact absurd hfield' hfield
    · have hcode := after_inCodeBlock hposition.le fun earlier hearlier text htext =>
        isFence_of_isTextLine (hshort earlier (by omega) text htext)
      rw [hindent, ScanState.indent, hcode]
      simp only [beq_iff_eq]

/-- The only way for a control line into a field is the search for the short description. Control
lines are kept apart exactly if the line that it takes, where it takes one, is a text line. -/
theorem keepsControlApart_iff (full : Bool) (lines : List Text) :
    KeepsControlApart full lines ↔ isTextLine full (shortAndBody lines).1 = true := by
  constructor
  · intro h
    by_cases hnone : (shortAndBody lines).1 = []
    · rw [hnone]
      cases full <;> decide
    · obtain ⟨position, hposition, htaken⟩ :=
        (short_contributed_iff full lines (shortAndBody lines).1).mpr ⟨rfl, hnone⟩
      rcases contribution_added htaken with ⟨-, hline⟩ | ⟨hne, -⟩
      · rw [hline]
        exact h.isText position hposition _ _ htaken
      · exact absurd rfl hne
  · exact keepsControlApart_of_text

/-- Of the lines that make a document no control line reaches the long description or the examples.
All fields are free of control lines, and all tabs follow the fences, exactly if the line of the
short description is a text line. -/
theorem controlLines_apart_iff (full : Bool) (filename content : Text) :
    parse full filename content = byContributions full filename content ∧
      (∀ position field text,
        ({} : Scan).contribution full (Text.lines content) position = some (field, text) →
          field ≠ .short → isTextLine full ((Text.lines content).getD position []) = true) ∧
      (KeepsControlApart full (Text.lines content) ↔
        isTextLine full (shortAndBody (Text.lines content)).1 = true) := by
  refine ⟨parse_eq_byContributions full filename content, ?_, keepsControlApart_iff full _⟩
  intro position field text htext hfield
  rcases contribution_added htext with ⟨hshort, -⟩ | ⟨-, hline, -⟩
  · exact absurd hshort hfield
  · exact hline

/-- A fence stands where the short description is looked for. -/
def fencedFirst : Text := .of "## cmd\n```\n```\nShort.\n### Synopsis\nText.\n"

/-- Behind two fences a tab stands, but what it stands before is a text line. -/
theorem controlLines_apart_fencedFirst :
    ({} : Scan).contribution false (Text.lines fencedFirst) 5 = some (.long, .of "\tText.") ∧
      isTextLine false (.of "Text.") = true := by
  have htaken : ({} : Scan).contribution false (Text.lines fencedFirst) 5 =
      some (.long, .of "\tText.") := by
    decide +kernel
  obtain ⟨-, htext, -⟩ := controlLines_apart_iff false (.of "a.md") fencedFirst
  exact ⟨htaken, htext 5 .long (.of "\tText.") htaken (by decide)⟩

/-- The first fence becomes the short description and does not count, so that the second one opens
a code block that never ends. -/
theorem fence_becomes_short :
    parse false (.of "a.md") fencedFirst =
        { name := .of "A", short := escapeBackticks codeFence, long := .of "\tText." } ∧
      ¬∀ (full : Bool) (content : Text), KeepsControlApart full (Text.lines content) := by
  constructor
  · decide +kernel
  · intro h
    have htext := (keepsControlApart_iff false (Text.lines fencedFirst)).mp (h false fencedFirst)
    exact absurd htext (by decide +kernel)

end Document

end HelpText
