import HelpText.CommandLine.Invocation
import HelpText.Proofs.Text.Lines

/-!
What the program relies on of the console that it prints on. Main statement: the console that it is
run with does that.
-/

namespace HelpText

namespace CommandLine

/-- Printable ASCII, from the blank to the tilde. -/
def IsPlain (c : Char) : Prop := 0x20 ≤ c.toNat ∧ c.toNat ≤ 0x7e

instance (c : Char) : Decidable (IsPlain c) :=
  inferInstanceAs (Decidable (0x20 ≤ c.toNat ∧ c.toNat ≤ 0x7e))

/-- A console that neither styles nor wraps what it is given, and reads no markup in it: printable
ASCII at the start of a text is written first, as it stands. -/
structure Console.ShowsPlain (console : Console) : Prop where
  start : ∀ start rest : Text, (∀ c ∈ start, IsPlain c) → start <+: console (start ++ rest)

theorem isPlain_of_all {t : Text} (h : t.all (fun c => decide (IsPlain c)) = true) :
    ∀ c ∈ t, IsPlain c :=
  fun c hc => of_decide_eq_true (List.all_eq_true.mp h c hc)

theorem isPlain_of_isDigit {c : Char} (h : c.isDigit = true) : IsPlain c := by
  simp only [Char.isDigit, Bool.and_eq_true, decide_eq_true_eq] at h
  have hlow : 48 ≤ c.toNat := h.1
  have hhigh : c.toNat ≤ 57 := h.2
  exact ⟨by omega, by omega⟩

section Concrete

variable {start : Text}

theorem isHidden_of_isPlain {c : Char} (h : IsPlain c) : isHidden c = false := by
  rw [isHidden, decide_eq_false_iff_not]
  intro hin
  simp only [List.mem_cons, List.not_mem_nil, or_false] at hin
  rcases hin with rfl | rfl | rfl | rfl | rfl <;> exact absurd h.1 (by decide)

theorem expandTabs_prefix (h : '\t' ∉ start) (rest : Text) :
    start <+: expandTabs (start ++ rest) := by
  obtain ⟨piece, pieces, hcut⟩ := Text.cut_prefix h rest
  rw [expandTabs, hcut]
  cases pieces with
  | nil => exact List.prefix_append _ _
  | cons next more =>
    rw [expandPieces, List.append_assoc, List.append_assoc]
    exact List.prefix_append _ _

theorem consoleLine_showsPlain : Console.ShowsPlain consoleLine := by
  refine ⟨fun start rest h => ?_⟩
  have hkept : start.filter (!isHidden ·) = start := by
    rw [List.filter_eq_self]
    intro c hc
    rw [isHidden_of_isPlain (h c hc), Bool.not_false]
  have hline : '\n' ∉ start := fun hin => absurd (h _ hin) (by decide)
  have htab : '\t' ∉ start := fun hin => absurd (h _ hin) (by decide)
  obtain ⟨piece, pieces, hcut⟩ := Text.cut_prefix hline (rest.filter (!isHidden ·))
  have hfirst : start <+: expandTabs (start ++ piece) := expandTabs_prefix htab piece
  rw [consoleLine, List.filter_append, hkept, hcut, List.map_cons]
  refine hfirst.trans ?_
  cases pieces with
  | nil => exact List.prefix_append _ _
  | cons next more =>
    rw [List.map_cons, Text.join, List.append_assoc, List.append_assoc]
    exact List.prefix_append _ _

end Concrete

end CommandLine

end HelpText
