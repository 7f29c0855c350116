import HelpText.Proofs.Text.Lines

/-!
Lines with their terminators. Main statement: a text that was put together from lines falls into
these lines again, whatever terminator each of them got, and at any newline a text falls into the
lines of its two parts.
-/

namespace HelpText

namespace Text

/-- What may stand behind a line. -/
inductive Terminator where
  | newline
  | returnAndNewline
  | nothing
  deriving DecidableEq, Repr

def Terminator.text : Terminator → Text
  | .newline => ['\n']
  | .returnAndNewline => ['\r', '\n']
  | .nothing => []

/-- The text of these lines, each with its terminator behind it. -/
def withTerminators (items : List (Text × Terminator)) : Text :=
  items.flatMap fun item => item.1 ++ item.2.text

/-- Lines that can be told from their terminators. Without a terminator only the last one may stand,
and only if it is not empty. -/
structure WellTerminated (items : List (Text × Terminator)) : Prop where
  noNewline : ∀ item ∈ items, '\n' ∉ item.1
  noReturn : ∀ item ∈ items, item.1.getLast? ≠ some '\r'
  ended : ∀ item ∈ items.dropLast, item.2 ≠ .nothing
  filled : ∀ item ∈ items, item.2 = .nothing → item.1 ≠ []

instance (items : List (Text × Terminator)) : Decidable (WellTerminated items) :=
  decidable_of_iff
    ((∀ item ∈ items, '\n' ∉ item.1) ∧ (∀ item ∈ items, item.1.getLast? ≠ some '\r') ∧
      (∀ item ∈ items.dropLast, item.2 ≠ .nothing) ∧
      ∀ item ∈ items, item.2 = .nothing → item.1 ≠ [])
    ⟨fun h => ⟨h.1, h.2.1, h.2.2.1, h.2.2.2⟩, fun h => ⟨h.noNewline, h.noReturn, h.ended, h.filled⟩⟩

theorem WellTerminated.tail {item : Text × Terminator} {items : List (Text × Terminator)}
    (h : WellTerminated (item :: items)) : WellTerminated items where
  noNewline other hother := h.noNewline other (List.mem_cons_of_mem _ hother)
  noReturn other hother := h.noReturn other (List.mem_cons_of_mem _ hother)
  ended other hother := by
    apply h.ended other
    rw [List.dropLast_cons_of_ne_nil (List.ne_nil_of_mem (List.dropLast_subset _ hother))]
    exact List.mem_cons_of_mem _ hother
  filled other hother := h.filled other (List.mem_cons_of_mem _ hother)

/-- Nothing comes behind a line without a terminator. -/
theorem WellTerminated.eq_nil {line : Text} {items : List (Text × Terminator)}
    (h : WellTerminated ((line, .nothing) :: items)) : items = [] := by
  by_contra hne
  apply h.ended (line, .nothing)
  · rw [List.dropLast_cons_of_ne_nil hne]
    exact List.mem_cons_self
  · rfl

theorem dropReturn_of_getLast? {line : Text} (h : line.getLast? ≠ some '\r') :
    dropReturn line = line := if_neg h

theorem dropReturn_concat (line : Text) : dropReturn (line ++ ['\r']) = line := by
  rw [dropReturn, if_pos List.getLast?_concat, List.dropLast_concat]

/-- The first line ends at the first newline. -/
theorem lines_cons {line : Text} (h : '\n' ∉ line) (rest : Text) :
    lines (line ++ '\n' :: rest) = dropReturn line :: lines rest := by
  rw [lines_append_cons, cut_of_not_mem h]
  rfl

/-- A last line without a newline counts unless it is empty. -/
theorem lines_of_not_mem {line : Text} (h : '\n' ∉ line) (hne : line ≠ []) :
    lines line = [dropReturn line] := by
  have hlast : ([line] : List Text).getLast? ≠ some [] := by simpa using hne
  rw [lines, cut_of_not_mem h, dropLastEmpty, if_neg hlast]
  rfl

theorem lines_withTerminators {items : List (Text × Terminator)} (h : WellTerminated items) :
    lines (withTerminators items) = items.map Prod.fst := by
  induction items with
  | nil => rfl
  | cons item items ih =>
    have hrest := ih h.tail
    obtain ⟨line, terminator⟩ := item
    have hnewline : '\n' ∉ line := h.noNewline _ List.mem_cons_self
    have hreturn : dropReturn line = line :=
      dropReturn_of_getLast? (h.noReturn _ List.mem_cons_self)
    rw [List.map_cons, ← hrest]
    cases terminator with
    | newline =>
      have htext : withTerminators ((line, .newline) :: items) =
          line ++ '\n' :: withTerminators items := by
        simp [withTerminators, Terminator.text]
      rw [htext, lines_cons hnewline, hreturn]
    | returnAndNewline =>
      -- To the cut the carriage return belongs to the line, which loses it afterwards.
      have htext : withTerminators ((line, .returnAndNewline) :: items) =
          (line ++ ['\r']) ++ '\n' :: withTerminators items := by
        simp [withTerminators, Terminator.text]
      have hnot : '\n' ∉ line ++ ['\r'] := by simpa using hnewline
      rw [htext, lines_cons hnot, dropReturn_concat]
    | nothing =>
      have hne : line ≠ [] := h.filled _ List.mem_cons_self rfl
      obtain rfl : items = [] := h.eq_nil
      have htext : withTerminators [(line, .nothing)] = line := by
        simp [withTerminators, Terminator.text]
      rw [htext, lines_of_not_mem hnewline hne, hreturn]
      rfl

/-- Taking a text apart undoes putting it together from lines with any terminators, and at any
newline a text falls into the lines of its two parts. -/
theorem lines_apart {items : List (Text × Terminator)} (h : WellTerminated items)
    (first second : Text) :
    lines (withTerminators items) = items.map Prod.fst ∧
      lines (first ++ '\n' :: second) = lines (first ++ ['\n']) ++ lines second := by
  refine ⟨lines_withTerminators h, ?_⟩
  have hnone : lines [] = [] := rfl
  calc lines (first ++ '\n' :: second)
      = (cut '\n' first).map dropReturn ++ lines second := lines_append_cons first second
    _ = ((cut '\n' first).map dropReturn ++ lines []) ++ lines second := by
        rw [hnone, List.append_nil]
    _ = lines (first ++ ['\n']) ++ lines second := by rw [← lines_append_cons first []]

/-- Empty lines, a carriage return inside a line, terminators of both kinds and none at the end. -/
def mixedLines : List (Text × Terminator) :=
  [([], .newline), (['a', '\r', 'b'], .returnAndNewline), ([], .returnAndNewline),
    (['#'], .newline), (['c'], .nothing)]

theorem lines_apart_mixed :
    WellTerminated mixedLines ∧
      lines (Text.of "\na\rb\r\n\r\n#\nc") = mixedLines.map Prod.fst ∧
      lines (Text.of "a\r\r\n\n") = lines (Text.of "a\r\r\n") ++ lines (Text.of "\n") := by
  have hlines : WellTerminated mixedLines := by decide
  obtain ⟨hback, hparts⟩ := lines_apart hlines (Text.of "a\r\r") (Text.of "\n")
  exact ⟨hlines, hback, hparts⟩

end Text

end HelpText
