import HelpText.Document.Name
import Mathlib.Data.List.Basic

/-!
The extension of a file name, which begins at the last dot. Main statements: a name ends in its
extension; it ends in a text with one dot, the first, exactly if that text is its extension; and a
text with a further dot is nobody's extension.
-/

namespace HelpText

section Extension

variable {name tail : Text}

theorem extensionOf_of_not_mem (h : '.' ∉ name) : extensionOf name = [] := by
  rw [extensionOf, if_neg]
  simpa using h

/-- What follows the last dot is the extension, with that dot. -/
theorem extensionOf_append (front : Text) (h : '.' ∉ tail) :
    extensionOf (front ++ '.' :: tail) = '.' :: tail := by
  have hreverse : (front ++ '.' :: tail).reverse = tail.reverse ++ '.' :: front.reverse := by simp
  have htail : ∀ c ∈ tail.reverse, decide (c ≠ '.') = true := by
    intro c hc
    rw [decide_eq_true_eq]
    rintro rfl
    exact h (List.mem_reverse.mp hc)
  rw [extensionOf, if_pos (by simp), hreverse, List.takeWhile_append_of_pos htail]
  simp

/-- A name with a dot has a last one. -/
theorem exists_last_dot (h : '.' ∈ name) :
    ∃ front tail : Text, name = front ++ '.' :: tail ∧ '.' ∉ tail := by
  -- The last dot is the first one from behind.
  obtain ⟨behind, before, hreverse, hdot⟩ :=
    List.eq_append_cons_of_mem (List.mem_reverse.mpr h)
  refine ⟨before.reverse, behind.reverse, ?_, by simpa using hdot⟩
  rw [← List.reverse_reverse name, hreverse]
  simp

theorem extensionOf_suffix (name : Text) : extensionOf name <:+ name := by
  by_cases h : '.' ∈ name
  · obtain ⟨front, tail, rfl, htail⟩ := exists_last_dot h
    rw [extensionOf_append front htail]
    exact List.suffix_append ..
  · rw [extensionOf_of_not_mem h]
    exact List.nil_suffix

theorem extensionOf_eq_iff_suffix (h : '.' ∉ tail) :
    extensionOf name = '.' :: tail ↔ '.' :: tail <:+ name := by
  constructor
  · intro heq
    rw [← heq]
    exact extensionOf_suffix name
  · rintro ⟨front, rfl⟩
    exact extensionOf_append front h

theorem extensionOf_ne_of_mem (h : '.' ∈ tail) : extensionOf name ≠ '.' :: tail := by
  intro heq
  by_cases hname : '.' ∈ name
  · obtain ⟨front, last, rfl, hlast⟩ := exists_last_dot hname
    rw [extensionOf_append front hlast] at heq
    obtain rfl : last = tail := (List.cons.inj heq).2
    exact hlast h
  · rw [extensionOf_of_not_mem hname] at heq
    cases heq

end Extension

end HelpText
