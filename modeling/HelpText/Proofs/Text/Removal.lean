import HelpText.Text.Basic
import Mathlib.Data.List.Basic

/-!
Taking a part out of a text wherever it occurs. Main statements: nothing is taken out before the
first character of the part appears, and what is left is one character over and over exactly if the
text is written with that character and the part alone.
-/

namespace HelpText

namespace Text

/-- What is still to be passed over is dropped. -/
theorem removeFrom_eq_drop (part : Text) (skip : Nat) (t : Text) :
    removeFrom part skip t = removeFrom part 0 (t.drop skip) := by
  induction t generalizing skip with
  | nil => cases skip <;> simp [removeFrom]
  | cons c rest ih =>
    cases skip with
    | zero => rfl
    | succ skip => rw [removeFrom, ih, List.drop_succ_cons]

@[simp] theorem removeAll_nil (part : Text) : removeAll part [] = [] := by
  rw [removeAll, removeFrom, ite_self]

section Marked

variable {mark : Char} {tail : Text}

theorem removeAll_cons (mark : Char) (tail : Text) (c : Char) (rest : Text) :
    removeAll (mark :: tail) (c :: rest) =
      if mark :: tail <+: c :: rest then removeAll (mark :: tail) (rest.drop tail.length)
      else c :: removeAll (mark :: tail) rest := by
  have hpart : (mark :: tail).isEmpty = false := rfl
  have hskip := removeFrom_eq_drop (mark :: tail) tail.length rest
  simp only [removeAll, hpart, Bool.false_eq_true, ↓reduceIte, removeFrom,
    List.isPrefixOf_iff_prefix, List.length_cons, Nat.add_sub_cancel, hskip]

/-- Where the part stands in front it goes, and the rest is gone through by itself. -/
theorem removeAll_part_append (mark : Char) (tail rest : Text) :
    removeAll (mark :: tail) (mark :: tail ++ rest) = removeAll (mark :: tail) rest := by
  rw [List.cons_append, removeAll_cons, if_pos, List.drop_left]
  exact List.prefix_append (mark :: tail) rest

theorem removeAll_cons_of_ne {c : Char} (h : c ≠ mark) (rest : Text) :
    removeAll (mark :: tail) (c :: rest) = c :: removeAll (mark :: tail) rest := by
  rw [removeAll_cons, if_neg]
  intro hprefix
  exact h (List.cons_prefix_cons.mp hprefix).1.symm

/-- Before the part can begin everything stays. -/
theorem removeAll_append_of_not_mem {front : Text} (h : mark ∉ front) (rest : Text) :
    removeAll (mark :: tail) (front ++ rest) = front ++ removeAll (mark :: tail) rest := by
  induction front with
  | nil => rfl
  | cons c front ih =>
    obtain ⟨hc, hfront⟩ := List.ne_and_not_mem_of_not_mem_cons h
    rw [List.cons_append, removeAll_cons_of_ne hc.symm, ih hfront, List.cons_append]

/-- The text is these two parts in some order, each as often as one likes. -/
def WrittenWith (first second t : Text) : Prop :=
  ∃ pieces : List Text, pieces.flatten = t ∧ ∀ piece ∈ pieces, piece = first ∨ piece = second

theorem WrittenWith.append {first second piece t : Text} (h : WrittenWith first second t)
    (hpiece : piece = first ∨ piece = second) : WrittenWith first second (piece ++ t) := by
  obtain ⟨pieces, rfl, hpieces⟩ := h
  exact ⟨piece :: pieces, rfl, List.forall_mem_cons.mpr ⟨hpiece, hpieces⟩⟩

theorem writtenWith_of_removeAll {filler : Char} {t : Text}
    (h : ∀ c ∈ removeAll (mark :: tail) t, c = filler) :
    WrittenWith [filler] (mark :: tail) t := by
  -- What stands in front is taken off, so that the rest is shorter.
  induction hlength : t.length using Nat.strongRecOn generalizing t with
  | ind length ih =>
    cases t with
    | nil => exact ⟨[], rfl, by simp⟩
    | cons c rest =>
      rw [removeAll_cons] at h
      rw [List.length_cons] at hlength
      split at h
      · next hprefix =>
        obtain ⟨rfl, behind, rfl⟩ := List.cons_prefix_cons.mp hprefix
        rw [List.drop_left] at h
        have hshort : behind.length < length := by
          rw [List.length_append] at hlength
          omega
        exact (ih behind.length hshort h rfl).append (Or.inr rfl)
      · obtain ⟨rfl, hrest⟩ := List.forall_mem_cons.mp h
        exact (ih rest.length (by omega) hrest rfl).append (Or.inl rfl)

theorem removeAll_of_writtenWith {filler : Char} (hfiller : filler ≠ mark) {t : Text}
    (h : WrittenWith [filler] (mark :: tail) t) :
    ∀ c ∈ removeAll (mark :: tail) t, c = filler := by
  obtain ⟨pieces, rfl, hpieces⟩ := h
  induction pieces with
  | nil => simp
  | cons piece pieces ih =>
    obtain ⟨hpiece, hrest⟩ := List.forall_mem_cons.mp hpieces
    rw [List.flatten_cons]
    rcases hpiece with rfl | rfl
    · rw [List.singleton_append, removeAll_cons_of_ne hfiller]
      exact List.forall_mem_cons.mpr ⟨rfl, ih hrest⟩
    · rw [removeAll_part_append]
      exact ih hrest

/-- Nothing but `filler` is left exactly of the texts that hold nothing but `filler` and the part.
-/
theorem removeAll_eq_filler_iff {filler : Char} (hfiller : filler ≠ mark) (t : Text) :
    (∀ c ∈ removeAll (mark :: tail) t, c = filler) ↔ WrittenWith [filler] (mark :: tail) t :=
  ⟨writtenWith_of_removeAll, removeAll_of_writtenWith hfiller⟩

end Marked

end Text

end HelpText
