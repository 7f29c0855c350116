import HelpText.Document.Basic
import Mathlib.Data.List.Basic

/-!
Escaping and trimming commute. An escaped line is blank exactly if the line is, so it makes no
difference whether the lines of a field are escaped one by one before they are trimmed and joined,
or the joined text afterwards.
-/

namespace HelpText

theorem trimBoth_map {α β : Type} (p : β → Bool) (f : α → β) (items : List α) :
    trimBoth p (items.map f) = (trimBoth (fun a => p (f a)) items).map f := by
  simp only [trimBoth, List.dropWhile_map, ← List.map_reverse]
  rfl

theorem trimBoth_singleton {α : Type} {p : α → Bool} {a : α} (h : p a = false) :
    trimBoth p [a] = [a] := by
  simp [trimBoth, List.dropWhile_cons_of_neg, h]

namespace Document

@[simp] theorem escapeBackticks_nil : escapeBackticks [] = [] := rfl

theorem escapeBackticks_cons (c : Char) (t : Text) :
    escapeBackticks (c :: t) =
      (if c = '\x60' then backtickEscape else [c]) ++ escapeBackticks t := by
  simp only [escapeBackticks, List.flatMap_cons]

theorem escapeBackticks_append (s t : Text) :
    escapeBackticks (s ++ t) = escapeBackticks s ++ escapeBackticks t := by
  simp only [escapeBackticks, List.flatMap_append]

theorem escapeBackticks_eq_nil_iff (t : Text) : escapeBackticks t = [] ↔ t = [] := by
  constructor
  · intro h
    cases t with
    | nil => rfl
    | cons c rest =>
      rw [escapeBackticks_cons] at h
      by_cases hc : c = '\x60' <;> simp [hc, backtickEscape] at h
  · rintro rfl
    rfl

theorem isBlank_escapeBackticks (t : Text) :
    Text.isBlank (escapeBackticks t) = Text.isBlank t := by
  -- Neither the backtick nor its escape is blank; all other characters stay.
  have hescape : backtickEscape.all Text.isBlankChar = false := by decide
  have hbacktick : Text.isBlankChar '\x60' = false := by decide
  induction t with
  | nil => rfl
  | cons c rest ih =>
    unfold Text.isBlank at ih ⊢
    rw [escapeBackticks_cons, List.all_append, List.all_cons, ih]
    by_cases hc : c = '\x60'
    · rw [if_pos hc, hescape, hc, hbacktick]
    · simp only [hc, ↓reduceIte, List.all_cons, List.all_nil, Bool.and_true]

theorem escapeBackticks_join (lines : List Text) :
    escapeBackticks (Text.join ['\n'] lines) = Text.join ['\n'] (lines.map escapeBackticks) := by
  induction lines with
  | nil => rfl
  | cons line rest ih =>
    cases rest with
    | nil => rfl
    | cons next more =>
      calc
        escapeBackticks (Text.join ['\n'] (line :: next :: more))
            = escapeBackticks line ++ ['\n'] ++
                escapeBackticks (Text.join ['\n'] (next :: more)) := by
          rw [Text.join, escapeBackticks_append, escapeBackticks_append]
          rfl
        _ = Text.join ['\n'] ((line :: next :: more).map escapeBackticks) := by
          rw [ih]
          rfl

/-- Escaping a joined field is joining its escaped lines. -/
theorem escapeBackticks_joinTrimmed (lines : List Text) :
    escapeBackticks (Text.joinTrimmed lines) =
      Text.join ['\n'] (trimBoth Text.isBlank (lines.map escapeBackticks)) := by
  simp only [Text.joinTrimmed, escapeBackticks_join, trimBoth_map, isBlank_escapeBackticks]

end Document

end HelpText
