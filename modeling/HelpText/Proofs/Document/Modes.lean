import HelpText.Proofs.Document.Positions
import HelpText.Proofs.Text.Lines

/-!
The two modes of reading a document compared. Both go through the same body, and what a field holds
is said by the positions of its lines there. Main statement: short descriptions are the same, and
the long description and the examples are found, line for line and at different places, in the long
description of the full mode.
-/

namespace HelpText

namespace Document

/-- The positions of the lines of a body that feed `field`. -/
def fieldPositions (full : Bool) (body : List Text) (field : Field) : List Nat :=
  (List.range body.length).filter fun position =>
    isTextLine full (body.getD position []) && feedsField full (body.take position) field

/-- The line at a position as it is collected; the mode makes no difference to it. -/
def shownAt (body : List Text) (position : Nat) : Text :=
  shownLine (body.take position) (body.getD position [])

/-- The positions that a field keeps when the blank lines at its ends are dropped. -/
def keptPositions (full : Bool) (body : List Text) (field : Field) : List Nat :=
  trimBoth (fun position => Text.isBlank (shownAt body position)) (fieldPositions full body field)

variable {full : Bool} {body : List Text} {field : Field}

theorem fieldLines_eq_map (full : Bool) (body : List Text) (field : Field) :
    fieldLines full body field = (fieldPositions full body field).map (shownAt body) := by
  rw [fieldLines, fieldPositions, ← List.filterMap_eq_map, List.filterMap_filter]
  apply List.filterMap_congr
  intro position _
  rfl

theorem fieldPositions_ascend (full : Bool) (body : List Text) (field : Field) :
    (fieldPositions full body field).Pairwise (· < ·) :=
  List.pairwise_lt_range.filter _

theorem keptPositions_ascend (full : Bool) (body : List Text) (field : Field) :
    (keptPositions full body field).Pairwise (· < ·) :=
  (fieldPositions_ascend full body field).sublist (trimBoth_sublist _ _)

theorem mem_fieldPositions_iff (position : Nat) :
    position ∈ fieldPositions full body field ↔
      position < body.length ∧ isTextLine full (body.getD position []) = true ∧
        feedsField full (body.take position) field = true := by
  rw [fieldPositions, List.mem_filter, List.mem_range, Bool.and_eq_true]

/-- Whatever feeds a field feeds the long description in full mode: less is a control line there,
and every section counts. -/
theorem fieldPositions_subset_full (full : Bool) (body : List Text) (field : Field) :
    fieldPositions full body field ⊆ fieldPositions true body .long := by
  intro position hposition
  obtain ⟨hlt, htext, -⟩ := (mem_fieldPositions_iff position).mp hposition
  have hfence : isFence (body.getD position []) = false := by
    rw [isTextLine, Bool.and_eq_true] at htext
    simpa using htext.2
  refine (mem_fieldPositions_iff position).mpr ⟨hlt, ?_, ?_⟩
  · rw [isTextLine, isHeading, hfence]
    rfl
  · rw [feedsField, Bool.true_or]

theorem keptPositions_subset_full (full : Bool) (body : List Text) (field : Field) :
    keptPositions full body field ⊆ keptPositions true body .long :=
  trimBoth_subset (fieldPositions_ascend ..) (fieldPositions_ascend ..)
    (fieldPositions_subset_full full body field)

/-- The nearest heading opens one section, so that no line feeds two fields. -/
theorem keptPositions_disjoint (full : Bool) (body : List Text) :
    (keptPositions full body .long).Disjoint (keptPositions full body .examples) := by
  intro position hlong hexamples
  have hlong := (trimBoth_sublist _ _).subset hlong
  have hexamples := (trimBoth_sublist _ _).subset hexamples
  obtain ⟨-, -, hlong⟩ := (mem_fieldPositions_iff position).mp hlong
  obtain ⟨-, -, hexamples⟩ := (mem_fieldPositions_iff position).mp hexamples
  have hfed := (field_after full (body.take position) .long).mpr hlong
  have hfed' := (field_after full (body.take position) .examples).mpr hexamples
  rw [hfed] at hfed'
  cases hfed'

/-- A field beside the short description is made of the lines at its positions. -/
theorem field_eq_join (full : Bool) (content : Text) (hfield : field ≠ .short) :
    escapeBackticks (Text.joinTrimmed (collected full (Text.lines content) field)) =
      Text.join ['\n'] ((keptPositions full (shortAndBody (Text.lines content)).2 field).map
        (shownAt (shortAndBody (Text.lines content)).2)) := by
  rw [escapeBackticks_joinTrimmed, escaped_collected full _ field hfield, fieldLines_eq_map,
    trimBoth_map, keptPositions]

theorem body_subset (lines : List Text) : (shortAndBody lines).2 ⊆ lines := by
  rw [shortAndBody]
  split
  · exact List.Subset.refl _
  · split
    · exact List.take_subset _ _
    · exact List.append_subset.mpr ⟨List.take_subset _ _, List.drop_subset _ _⟩

theorem newline_not_mem_escapeBackticks {line : Text} (h : '\n' ∉ line) :
    '\n' ∉ escapeBackticks line := by
  rw [escapeBackticks, List.mem_flatMap]
  intro hmem
  obtain ⟨c, hc, hnewline⟩ := hmem
  split at hnewline
  · exact absurd hnewline (by decide)
  · rw [List.mem_singleton] at hnewline
    exact h (hnewline ▸ hc)

theorem newline_not_mem_shownAt (h : ∀ line ∈ body, '\n' ∉ line) (position : Nat) :
    '\n' ∉ shownAt body position := by
  have hline : '\n' ∉ body.getD position [] := by
    rw [List.getD_eq_getElem?_getD]
    cases hget : body[position]? with
    | none => simp
    | some line => exact h line (List.mem_of_getElem? hget)
  have hescaped := newline_not_mem_escapeBackticks hline
  rw [shownAt, shownLine]
  split
  · rw [List.mem_cons, not_or]
    exact ⟨by decide, hescaped⟩
  · exact hescaped

/-- The lines of a field; an empty field has none. -/
def linesOf (value : Text) : List Text := if value = [] then [] else Text.cut '\n' value

/-- The lines of a joined field are those it was joined from: none holds a newline, and the first is
not blank. -/
theorem linesOf_join_kept (h : ∀ line ∈ body, '\n' ∉ line) :
    linesOf (Text.join ['\n'] ((keptPositions full body field).map (shownAt body))) =
      (keptPositions full body field).map (shownAt body) := by
  cases hkept : keptPositions full body field with
  | nil => rfl
  | cons first rest =>
    have hfirst : Text.isBlank (shownAt body first) = false := by
      apply head?_trimBoth (p := fun position => Text.isBlank (shownAt body position))
      rw [← keptPositions, hkept, List.head?_cons]
    have hne : shownAt body first ≠ [] := by
      intro hempty
      rw [hempty] at hfirst
      exact absurd hfirst (by decide)
    have hjoined :
        Text.join ['\n'] ((first :: rest).map (shownAt body)) ≠ [] := by
      cases rest <;> simp [Text.join, hne]
    rw [linesOf, if_neg hjoined]
    apply Text.cut_join (by simp)
    intro piece hpiece
    obtain ⟨position, -, rfl⟩ := List.mem_map.mp hpiece
    exact newline_not_mem_shownAt h position

/-- The lines `part` stand in `whole` at these positions, one behind the other. -/
structure StandsAt (whole part : List Text) (positions : List Nat) : Prop where
  ascending : positions.Pairwise (· < ·)
  found : part.map some = positions.map (whole[·]?)

/-- Where an ascending list of positions is part of another, its lines stand where the positions
stand in the other list. -/
theorem standsAt_idxOf {part whole : List Nat} (hpart : part.Pairwise (· < ·))
    (hwhole : whole.Pairwise (· < ·)) (h : part ⊆ whole) (line : Nat → Text) :
    StandsAt (whole.map line) (part.map line) (part.map (whole.idxOf ·)) := by
  have hget (position : Nat) (hposition : position ∈ part) :
      ∃ hlt : whole.idxOf position < whole.length, whole[whole.idxOf position] = position :=
    ⟨List.idxOf_lt_length_of_mem (h hposition), List.getElem_idxOf _⟩
  constructor
  · rw [List.pairwise_map]
    apply hpart.imp_of_mem
    intro a b ha hb hab
    obtain ⟨hlta, hgeta⟩ := hget a ha
    obtain ⟨hltb, hgetb⟩ := hget b hb
    -- In an ascending list a smaller member stands further to the front.
    by_contra hnot
    have hle : whole.idxOf b ≤ whole.idxOf a := by omega
    rcases Nat.lt_or_eq_of_le hle with hlt | heq
    · have hba := List.pairwise_iff_getElem.mp hwhole _ _ hltb hlta hlt
      omega
    · have hba : b = a := by
        rw [← hgetb, ← hgeta]
        simp only [heq]
      omega
  · rw [List.map_map, List.map_map]
    apply List.map_congr_left
    intro position hposition
    obtain ⟨hlt, hgot⟩ := hget position hposition
    simp [List.getElem?_eq_getElem hlt, hgot]

theorem disjoint_idxOf {first second whole : List Nat} (h : first.Disjoint second)
    (hfirst : first ⊆ whole) :
    (first.map (whole.idxOf ·)).Disjoint (second.map (whole.idxOf ·)) := by
  intro place hplace hplace'
  obtain ⟨a, ha, haplace⟩ := List.mem_map.mp hplace
  obtain ⟨b, hb, hbplace⟩ := List.mem_map.mp hplace'
  have hab : a = b := (List.idxOf_inj (hfirst ha)).mp (haplace.trans hbplace.symm)
  exact h ha (hab ▸ hb)

/-- The two modes give one name and one short description. What the default mode puts into the long
description and the examples stands, in the same order and at different places, among the lines of
the long description of the full mode, which has no examples. -/
theorem parse_modes_agree (filename content : Text) :
    (parse true filename content).name = (parse false filename content).name ∧
      (parse true filename content).short = (parse false filename content).short ∧
      (parse true filename content).examples = [] ∧
      ∃ long examples,
        StandsAt (linesOf (parse true filename content).long)
          (linesOf (parse false filename content).long) long ∧
        StandsAt (linesOf (parse true filename content).long)
          (linesOf (parse false filename content).examples) examples ∧
        long.Disjoint examples := by
  set body := (shortAndBody (Text.lines content)).2 with hbody
  have hnewline : ∀ line ∈ body, '\n' ∉ line := fun line hline =>
    Text.newline_not_mem_lines content line (body_subset _ hline)
  have hlines (full : Bool) (field : Field) (hfield : field ≠ .short) :
      linesOf (escapeBackticks (Text.joinTrimmed (collected full (Text.lines content) field))) =
        (keptPositions full body field).map (shownAt body) := by
    rw [field_eq_join full content hfield, ← hbody, linesOf_join_kept hnewline]
  have hlong := keptPositions_subset_full false body .long
  have hexamples := keptPositions_subset_full false body .examples
  have hdisjoint := disjoint_idxOf (keptPositions_disjoint false body) hlong
  have hnone : keptPositions true body .examples = [] := by
    simp [keptPositions, fieldPositions, feedsField, trimBoth]
  refine ⟨rfl, ?_, ?_, _, _, ?_, ?_, hdisjoint⟩
  · simp only [parse, escaped_short]
  · simp only [parse]
    rw [field_eq_join true content (by decide), ← hbody, hnone]
    rfl
  · simp only [parse]
    rw [hlines true .long (by decide), hlines false .long (by decide)]
    exact standsAt_idxOf (keptPositions_ascend ..) (keptPositions_ascend ..) hlong _
  · simp only [parse]
    rw [hlines true .long (by decide), hlines false .examples (by decide)]
    exact standsAt_idxOf (keptPositions_ascend ..) (keptPositions_ascend ..) hexamples _

end Document

end HelpText
