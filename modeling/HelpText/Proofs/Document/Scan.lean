import HelpText.Document.Basic
import Mathlib.Data.List.Basic

/-!
The scan of a document in parts. What it collects from a body is collected line by line, each line
in the state that the lines before it have left; the search for the short description stands between
two parts of the body.
-/

namespace HelpText

namespace Document

/-- A line that opens or closes a code block. -/
def isFence (line : Text) : Bool := codeFence.isPrefixOf line

/-- A subsection heading. With `full` set there are none. -/
def isHeading (full : Bool) (line : Text) : Bool := !full && subsectionHeading.isPrefixOf line

/-- Every line that is neither heading nor fence is text. -/
def isTextLine (full : Bool) (line : Text) : Bool := !isHeading full line && !isFence line

theorem advance_eq (full : Bool) (state : ScanState) (line : Text) :
    state.advance full line =
      if isHeading full line then ({ state with current := Section.ofHeading line }, true)
      else if isFence line then ({ state with inCodeBlock := !state.inCodeBlock }, true)
      else (state, false) := rfl

theorem isFence_eq_false_of_isHeading {full : Bool} {line : Text}
    (h : isHeading full line = true) : isFence line = false := by
  simp only [isHeading, Bool.and_eq_true] at h
  obtain ⟨rest, rfl⟩ := List.isPrefixOf_iff_prefix.mp h.2
  rfl

/-- The state in which the scanner stands behind `lines`. -/
def ScanState.after (full : Bool) : ScanState → List Text → ScanState
  | state, [] => state
  | state, line :: rest => (state.advance full line).1.after full rest

theorem after_append (full : Bool) (state : ScanState) (first second : List Text) :
    state.after full (first ++ second) = (state.after full first).after full second := by
  induction first generalizing state with
  | nil => rfl
  | cons line first ih => simp only [List.cons_append, ScanState.after, ih]

/-- What `lines` add to the fields while no title heading is looked for. -/
def ScanState.items (full : Bool) : ScanState → List Text → List (Field × Text)
  | _, [] => []
  | state, line :: rest =>
    (state.feed full line).2.toList ++ (state.advance full line).1.items full rest

theorem feed_fst (full : Bool) (state : ScanState) (line : Text) :
    (state.feed full line).1 = (state.advance full line).1 := by
  rw [ScanState.feed]
  split <;> simp_all

theorem items_append (full : Bool) (state : ScanState) (first second : List Text) :
    state.items full (first ++ second) =
      state.items full first ++
        (state.after full first).items full second := by
  induction first generalizing state with
  | nil => rfl
  | cons line first ih =>
    simp only [List.cons_append, ScanState.items, ScanState.after, ih, List.append_assoc]

theorem items_concat (full : Bool) (state : ScanState) (lines : List Text) (line : Text) :
    state.items full (lines ++ [line]) =
      state.items full lines ++ ((state.after full lines).feed full line).2.toList := by
  rw [items_append, ScanState.items, ScanState.items, List.append_nil]

theorem items_taken (full : Bool) (state : ScanState) (lines : List Text) :
    Scan.items full ⟨.taken, state⟩ lines = state.items full lines := by
  induction lines generalizing state with
  | nil => rfl
  | cons line rest ih =>
    rw [Scan.items, Scan.feed, ScanState.items, ← feed_fst, ← ih]
    cases hitem : (state.feed full line).2 <;> simp [hitem]

/-- Up to the title heading the lines belong to the body. -/
theorem items_awaited (full : Bool) (state : ScanState) (before rest : List Text)
    (h : ∀ line ∈ before, titleHeading.isPrefixOf line = false) :
    Scan.items full ⟨.awaited, state⟩ (before ++ rest) =
      state.items full before ++ Scan.items full ⟨.awaited, state.after full before⟩ rest := by
  induction before generalizing state with
  | nil => rfl
  | cons line before ih =>
    have hline := h line (List.mem_cons_self ..)
    have hrest := ih (state.feed full line).1 fun other hother =>
      h other (List.mem_cons_of_mem _ hother)
    rw [List.cons_append, Scan.items, Scan.feed, ScanState.items, ScanState.after,
      ← feed_fst]
    simp only [hline, Bool.false_eq_true, ↓reduceIte]
    cases (state.feed full line).2 <;> simp [hrest]

/-- Between the title heading and the short description nothing counts. -/
theorem items_seen (full : Bool) (state : ScanState) (blanks rest : List Text)
    (h : ∀ line ∈ blanks, Text.isBlank line = true) :
    Scan.items full ⟨.seen, state⟩ (blanks ++ rest) = Scan.items full ⟨.seen, state⟩ rest := by
  induction blanks with
  | nil => rfl
  | cons line blanks ih =>
    have hline := h line (List.mem_cons_self ..)
    have hrest := ih fun other hother => h other (List.mem_cons_of_mem _ hother)
    rw [List.cons_append, Scan.items, Scan.feed]
    simp only [hline, ↓reduceIte, hrest]

end Document

end HelpText
