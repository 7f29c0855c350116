import HelpText.Proofs.Document.Escape
import HelpText.Proofs.Document.Scan
import Mathlib.Data.List.DropRight
import Mathlib.Data.List.GetD
import Mathlib.Data.List.Induction

/-!
A document read by the positions of its lines. Which field a line of the body feeds, and whether it
is indented, is said by the lines before it: by the nearest subsection heading and by the number of
code fences. Main statement: the scanner, which goes through the lines once and remembers two flags,
finds the same document.
-/

namespace HelpText

namespace Document

/-- The heading nearest to the end of `lines`. -/
def nearestHeading (full : Bool) (lines : List Text) : Option Text :=
  lines.reverse.find? (isHeading full)

/-- Whether a text line feeds `field` when these lines stand before it. -/
def feedsField (full : Bool) (before : List Text) : Field → Bool
  | .short => false
  | .long => full || (nearestHeading full before).any synopsisHeading.isPrefixOf
  | .examples => !full && (nearestHeading full before).any examplesHeading.isPrefixOf

/-- A text line as it is collected when these lines stand before it: escaped, and behind a tab if
the number of fences before it is odd. -/
def shownLine (before : List Text) (line : Text) : Text :=
  if before.countP isFence % 2 = 1 then '\t' :: escapeBackticks line else escapeBackticks line

/-- What the line at a position adds to `field`. -/
def lineAt (full : Bool) (lines : List Text) (field : Field) (position : Nat) : Option Text :=
  let before := lines.take position
  let line := lines.getD position []
  if isTextLine full line && feedsField full before field then some (shownLine before line)
  else none

/-- The lines of `field` in source order. -/
def fieldLines (full : Bool) (lines : List Text) (field : Field) : List Text :=
  (List.range lines.length).filterMap (lineAt full lines field)

/-- The position of the title heading. -/
def titlePosition? (lines : List Text) : Option Nat := lines.findIdx? titleHeading.isPrefixOf

/-- The position of the first line behind `position` that is not blank. -/
def textPosition? (lines : List Text) (position : Nat) : Option Nat :=
  ((lines.drop (position + 1)).findIdx? fun line => !Text.isBlank line).map (· + (position + 1))

/-- The line of the short description, empty if there is none, and the lines of the body. -/
def shortAndBody (lines : List Text) : Text × List Text :=
  match titlePosition? lines with
  | none => ([], lines)
  | some i =>
    match textPosition? lines i with
    | none => ([], lines.take i)
    | some j => (lines.getD j [], lines.take i ++ lines.drop (j + 1))

/-- The document as its positions say. -/
def byPositions (full : Bool) (filename content : Text) : Document :=
  let (short, body) := shortAndBody (Text.lines content)
  let field := fun field =>
    Text.join ['\n'] (((fieldLines full body field).dropWhile Text.isBlank).rdropWhile Text.isBlank)
  { name := deriveName filename
    short := escapeBackticks short
    long := field .long
    examples := field .examples }

theorem fieldLines_concat (full : Bool) (lines : List Text) (line : Text) (field : Field) :
    fieldLines full (lines ++ [line]) field =
      fieldLines full lines field ++
        if isTextLine full line && feedsField full lines field then [shownLine lines line]
        else [] := by
  -- What is said of a position depends on the lines up to it, so a further line changes nothing.
  have hbefore : (List.range lines.length).filterMap (lineAt full (lines ++ [line]) field) =
      fieldLines full lines field := by
    apply List.filterMap_congr
    intro k hk
    have hlt : k < lines.length := List.mem_range.mp hk
    simp only [lineAt, List.take_append_of_le_length hlt.le, List.getD_append _ _ _ _ hlt]
  have hlast : lineAt full (lines ++ [line]) field lines.length =
      if isTextLine full line && feedsField full lines field then some (shownLine lines line)
      else none := by
    simp [lineAt]
  rw [fieldLines, List.length_append, List.length_singleton, List.range_succ,
    List.filterMap_append, hbefore, List.filterMap_cons, List.filterMap_nil, hlast]
  by_cases h : (isTextLine full line && feedsField full lines field) = true
  · rw [if_pos h, if_pos h]
  · rw [if_neg h, if_neg h]

/-- The section that the nearest heading has opened. -/
def sectionAfter (full : Bool) (lines : List Text) : Section :=
  match nearestHeading full lines with
  | none => .idle
  | some heading => Section.ofHeading heading

theorem nearestHeading_concat (full : Bool) (lines : List Text) (line : Text) :
    nearestHeading full (lines ++ [line]) =
      if isHeading full line then some line else nearestHeading full lines := by
  simp only [nearestHeading, List.reverse_append, List.reverse_singleton, List.singleton_append,
    List.find?_cons]
  cases isHeading full line <;> rfl

theorem sectionAfter_concat (full : Bool) (lines : List Text) (line : Text) :
    sectionAfter full (lines ++ [line]) =
      if isHeading full line then Section.ofHeading line else sectionAfter full lines := by
  rw [sectionAfter, nearestHeading_concat]
  cases isHeading full line <;> rfl

/-- The invariant of the scan: its two flags are the section of the nearest heading and the parity
of the fences. -/
theorem after_eq (full : Bool) (lines : List Text) :
    ({} : ScanState).after full lines =
      ⟨sectionAfter full lines, lines.countP isFence % 2 == 1⟩ := by
  induction lines using List.reverseRecOn with
  | nil => rfl
  | append_singleton lines line ih =>
    rw [after_append, ih, ScanState.after, ScanState.after, advance_eq, sectionAfter_concat,
      List.countP_append, List.countP_singleton]
    by_cases hheading : isHeading full line = true
    · -- A heading opens a section and is no fence.
      have hfence := isFence_eq_false_of_isHeading hheading
      simp only [hheading, hfence, ↓reduceIte, Bool.false_eq_true, Nat.add_zero]
    · by_cases hfence : isFence line = true
      · -- A fence turns the flag over, as it turns the parity over.
        have hparity : (!(lines.countP isFence % 2 == 1)) =
            ((lines.countP isFence + 1) % 2 == 1) := by
          rcases Nat.mod_two_eq_zero_or_one (lines.countP isFence) with h | h <;>
            simp [Nat.add_mod, h]
        simp only [hheading, hfence, hparity, ↓reduceIte, Bool.false_eq_true]
      · simp only [hheading, hfence, ↓reduceIte, Bool.false_eq_true, Nat.add_zero]

theorem not_examples_of_synopsis {line : Text} (h : synopsisHeading.isPrefixOf line = true) :
    examplesHeading.isPrefixOf line = false := by
  obtain ⟨rest, rfl⟩ := List.isPrefixOf_iff_prefix.mp h
  rfl

/-- The section behind `lines` is the field that a text line there feeds. -/
theorem field_after (full : Bool) (lines : List Text) (field : Field) :
    (({} : ScanState).after full lines).field full = some field ↔
      feedsField full lines field = true := by
  rw [after_eq, ScanState.field, sectionAfter]
  cases full with
  | true => cases field <;> simp [feedsField]
  | false =>
    cases hheading : nearestHeading false lines with
    | none => cases field <;> simp [feedsField, hheading]
    | some heading =>
      by_cases hs : synopsisHeading.isPrefixOf heading = true
      · have he := not_examples_of_synopsis hs
        cases field <;> simp [feedsField, hheading, Section.ofHeading, hs, he]
      · by_cases he : examplesHeading.isPrefixOf heading = true <;>
          cases field <;> simp [feedsField, hheading, Section.ofHeading, hs, he]

theorem escapeBackticks_indent (full : Bool) (lines : List Text) (line : Text) :
    escapeBackticks ((({} : ScanState).after full lines).indent line) = shownLine lines line := by
  rw [after_eq, ScanState.indent, shownLine]
  by_cases h : lines.countP isFence % 2 = 1
  · have htab : escapeBackticks ('\t' :: line) = '\t' :: escapeBackticks line :=
      escapeBackticks_cons '\t' line
    simp only [h, beq_self_eq_true, ↓reduceIte, htab]
  · simp only [h, beq_iff_eq, ↓reduceIte]

/-- The items of one field, escaped. -/
def escapedItems (field : Field) (items : List (Field × Text)) : List Text :=
  items.filterMap fun item => if item.1 = field then some (escapeBackticks item.2) else none

theorem escapedItems_append (field : Field) (first second : List (Field × Text)) :
    escapedItems field (first ++ second) = escapedItems field first ++ escapedItems field second :=
  List.filterMap_append

theorem escapedItems_feed (full : Bool) (lines : List Text) (line : Text) (field : Field) :
    escapedItems field ((({} : ScanState).after full lines).feed full line).2.toList =
      if isTextLine full line && feedsField full lines field then [shownLine lines line]
      else [] := by
  rw [ScanState.feed, advance_eq, isTextLine]
  by_cases hheading : isHeading full line = true
  · simp only [hheading, ↓reduceIte]
    rfl
  · by_cases hfence : isFence line = true
    · simp only [hheading, hfence, ↓reduceIte]
      rfl
    · -- A text line: its field is the one that the section behind `lines` feeds.
      have hfield := field_after full lines field
      simp only [hheading, hfence, Bool.not_false, Bool.true_and, ↓reduceIte,
        Bool.false_eq_true]
      cases hfed : (({} : ScanState).after full lines).field full with
      | none =>
        have hnot : feedsField full lines field = false := by
          rw [hfed] at hfield
          simpa using hfield
        simp [escapedItems, hnot]
      | some other =>
        rw [hfed, Option.some.injEq] at hfield
        by_cases heq : other = field
        · simp [escapedItems, heq, hfield.mp heq, escapeBackticks_indent]
        · have hnot : feedsField full lines field = false := by
            simpa using fun h => heq (hfield.mpr h)
          simp [escapedItems, heq, hnot]

/-- One pass over the body collects what the positions say. -/
theorem escapedItems_items (full : Bool) (lines : List Text) (field : Field) :
    escapedItems field (({} : ScanState).items full lines) = fieldLines full lines field := by
  induction lines using List.reverseRecOn with
  | nil => rfl
  | append_singleton lines line ih =>
    rw [items_concat, escapedItems_append, escapedItems_feed, ih, fieldLines_concat]

theorem exists_append_of_findIdx? {α : Type} {p : α → Bool} {items : List α} {i : Nat}
    (h : items.findIdx? p = some i) :
    ∃ before a after, items = before ++ a :: after ∧ before.length = i ∧
      (∀ b ∈ before, p b = false) ∧ p a = true := by
  obtain ⟨hi, hp, hbefore⟩ := List.findIdx?_eq_some_iff_getElem.mp h
  refine ⟨items.take i, items[i], items.drop (i + 1), ?_, ?_, ?_, hp⟩
  · rw [← List.drop_eq_getElem_cons hi, List.take_append_drop]
  · exact List.length_take_of_le hi.le
  · intro b hb
    obtain ⟨j, hj, rfl⟩ := List.mem_take_iff_getElem.mp hb
    have hji : j < i := by omega
    simpa using hbefore j hji

/-- What the search for the short description adds. -/
def shortItems (short : Text) : List (Field × Text) :=
  if short = [] then [] else [(.short, short)]

/-- The search leaves the lines before the title heading and those behind the short description. -/
theorem items_shortAndBody (full : Bool) (lines : List Text) :
    ∃ before after, (shortAndBody lines).2 = before ++ after ∧
      ({} : Scan).items full lines =
        ({} : ScanState).items full before ++ shortItems (shortAndBody lines).1 ++
          (({} : ScanState).after full before).items full after ∧
      ((shortAndBody lines).1 ≠ [] → Text.isBlank (shortAndBody lines).1 = false) := by
  cases htitle : titlePosition? lines with
  | none =>
    -- Without a title heading all lines are body.
    have hnone : ∀ line ∈ lines, titleHeading.isPrefixOf line = false :=
      List.findIdx?_eq_none_iff.mp htitle
    have hitems := items_awaited full {} lines [] hnone
    refine ⟨lines, [], ?_, ?_, ?_⟩
    · simp [shortAndBody, htitle]
    · simpa [shortAndBody, htitle, shortItems, Scan.items, ScanState.items] using hitems
    · simp [shortAndBody, htitle]
  | some i =>
    obtain ⟨before, title, behind, rfl, rfl, hbefore, htitled⟩ := exists_append_of_findIdx? htitle
    have hitems : ({} : Scan).items full (before ++ title :: behind) =
        ({} : ScanState).items full before ++
          Scan.items full ⟨.seen, ({} : ScanState).after full before⟩ behind := by
      have hawaited := items_awaited full {} before (title :: behind) hbefore
      rw [Scan.items, Scan.feed] at hawaited
      simpa only [htitled, ↓reduceIte] using hawaited
    have hdrop : (before ++ title :: behind).drop (before.length + 1) = behind := by simp
    cases htext : behind.findIdx? fun line => !Text.isBlank line with
    | none =>
      -- The search goes on to the end and takes all of it along.
      have hblank : ∀ line ∈ behind, Text.isBlank line = true := by
        simpa using List.findIdx?_eq_none_iff.mp htext
      have hseen := items_seen full (({} : ScanState).after full before) behind [] hblank
      have hsplit : shortAndBody (before ++ title :: behind) = ([], before) := by
        simp [shortAndBody, htitle, textPosition?, hdrop, htext]
      refine ⟨before, [], ?_, ?_, ?_⟩
      · simp [hsplit]
      · rw [hitems, hsplit]
        simpa [shortItems, Scan.items, ScanState.items] using hseen
      · simp [hsplit]
    | some k =>
      obtain ⟨blanks, short, after, rfl, rfl, hblanks, hshort⟩ := exists_append_of_findIdx? htext
      -- The search ends at `short`, and the scanner goes on in the state it had at the title.
      have hnotBlank : Text.isBlank short = false := by simpa using hshort
      have hne : short ≠ [] := by
        rintro rfl
        exact absurd hnotBlank (by decide)
      have hwhole : before ++ title :: (blanks ++ short :: after) =
          (before ++ title :: blanks) ++ short :: after := by simp
      have hposition : textPosition? (before ++ title :: (blanks ++ short :: after))
          before.length = some (before ++ title :: blanks).length := by
        rw [textPosition?, hdrop, htext]
        simp
        omega
      have hsplit : shortAndBody (before ++ title :: (blanks ++ short :: after)) =
          (short, before ++ after) := by
        have hget (front : List Text) : (front ++ short :: after).getD front.length [] = short := by
          simp
        have hdropped (front : List Text) :
            (front ++ short :: after).drop (front.length + 1) = after := by simp
        simp only [shortAndBody, htitle, hposition, List.take_left]
        rw [hwhole, hget, hdropped]
      refine ⟨before, after, ?_, ?_, ?_⟩
      · rw [hsplit]
      · rw [hitems, hsplit, items_seen full _ blanks _ (by simpa using hblanks), Scan.items,
          Scan.feed]
        simp [hnotBlank, shortItems, hne, items_taken]
      · rw [hsplit]
        exact fun _ => hnotBlank

theorem map_escapeBackticks_collected (full : Bool) (lines : List Text) (field : Field) :
    (collected full lines field).map escapeBackticks =
      escapedItems field (({} : Scan).items full lines) := by
  rw [collected, List.map_filterMap, escapedItems]
  apply List.filterMap_congr
  intro item _
  by_cases h : item.1 = field <;> simp [h]

theorem fieldLines_short (full : Bool) (lines : List Text) : fieldLines full lines .short = [] := by
  rw [fieldLines, List.filterMap_eq_nil_iff]
  intro position _
  simp [lineAt, feedsField]

/-- What feeds a field besides the short description stands in the body. -/
theorem escaped_collected (full : Bool) (lines : List Text) (field : Field)
    (hfield : field ≠ .short) :
    (collected full lines field).map escapeBackticks =
      fieldLines full (shortAndBody lines).2 field := by
  obtain ⟨before, after, hbody, hitems, -⟩ := items_shortAndBody full lines
  have hshort : escapedItems field (shortItems (shortAndBody lines).1) = [] := by
    rw [shortItems]
    split <;> simp [escapedItems, hfield.symm]
  rw [map_escapeBackticks_collected, hitems, hbody, ← escapedItems_items, items_append,
    escapedItems_append, escapedItems_append, escapedItems_append, hshort, List.append_nil]

theorem escaped_short (full : Bool) (lines : List Text) :
    escapeBackticks (Text.joinTrimmed (collected full lines .short)) =
      escapeBackticks (shortAndBody lines).1 := by
  obtain ⟨before, after, hbody, hitems, hblank⟩ := items_shortAndBody full lines
  -- Nothing in the body feeds the short description.
  have hbodies : escapedItems .short (({} : ScanState).items full before) ++
      escapedItems .short ((({} : ScanState).after full before).items full after) = [] := by
    have h := escapedItems_items full (before ++ after) .short
    rwa [items_append, escapedItems_append, fieldLines_short] at h
  obtain ⟨hbefore, hafter⟩ := List.append_eq_nil_iff.mp hbodies
  rw [escapeBackticks_joinTrimmed, map_escapeBackticks_collected, hitems, escapedItems_append,
    escapedItems_append, hbefore, hafter, List.nil_append, List.append_nil]
  by_cases hnone : (shortAndBody lines).1 = []
  · rw [hnone]
    rfl
  · have hitem : escapedItems .short (shortItems (shortAndBody lines).1) =
        [escapeBackticks (shortAndBody lines).1] := by
      simp [escapedItems, shortItems, hnone]
    rw [hitem, trimBoth_singleton]
    · rfl
    · rw [isBlank_escapeBackticks]
      exact hblank hnone

theorem parse_eq_byPositions (full : Bool) (filename content : Text) :
    parse full filename content = byPositions full filename content := by
  have hfield (field : Field) (hfield : field ≠ .short) :
      escapeBackticks (Text.joinTrimmed (collected full (Text.lines content) field)) =
        Text.join ['\n'] (((fieldLines full (shortAndBody (Text.lines content)).2 field).dropWhile
          Text.isBlank).rdropWhile Text.isBlank) := by
    rw [escapeBackticks_joinTrimmed, escaped_collected full _ field hfield]
    rfl
  rw [parse, byPositions, escaped_short, hfield .long (by decide), hfield .examples (by decide)]

end Document

end HelpText
