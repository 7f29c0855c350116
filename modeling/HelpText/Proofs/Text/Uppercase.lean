import HelpText.Proofs.Json.Ascii
import HelpText.Text.Uppercase
import Mathlib

/-!
Upper case of single characters. Main statements: what names are written with stays so in upper
case, and only the hyphen has hyphens alone for its upper case.
-/

namespace HelpText

namespace Text

/-- What names are written with: ASCII letters, digits and the underscore. -/
def isWordChar (c : Char) : Bool := c.isAlphanum || c == '_'

theorem toNat_lt_of_isWordChar {c : Char} (h : isWordChar c = true) : c.toNat < 128 := by
  rcases Bool.or_eq_true_iff.mp h with halphanum | hunderscore
  · exact Nat.lt_of_le_of_lt (printable_of_alphanum halphanum).2 (by decide)
  · rw [beq_iff_eq.mp hunderscore]
    decide

theorem upperChar_of_ascii {c : Char} (h : c.toNat < 128) : upperChar c = [c.toUpper] := by
  rw [upperChar, if_pos h]

theorem toUpper_cases (c : Char) : c.toUpper = c ∨ c.toUpper.isAlpha = true := by
  rw [Char.isAlpha_toUpper_eq_isAlpha]
  by_cases hlower : c.isLower = true
  · exact .inr (Bool.or_eq_true_iff.mpr (.inr hlower))
  · exact .inl (Char.toUpper_eq_of_not_isLower hlower)

theorem isWordChar_toUpper {c : Char} (h : isWordChar c = true) : isWordChar c.toUpper = true := by
  rcases toUpper_cases c with hsame | halpha
  · rw [hsame]
    exact h
  · rw [isWordChar, Char.isAlphanum, halpha, Bool.true_or, Bool.true_or]

theorem ofNat_ne_hyphen {n : Nat} (h : n ≠ 0x2d) : Char.ofNat n ≠ '-' := by
  intro heq
  have hn : (Char.ofNat n).toNat = 0x2d := congrArg Char.toNat heq
  rw [Char.toNat_ofNat] at hn
  split at hn
  · exact h hn
  · cases hn

theorem upperCode_ne_hyphen {n : Nat} (h : n ≠ 0x2d) : upperCode n ≠ 0x2d := by
  have hruns : ∀ run ∈ upperRuns, 0x2d < run.2.2.2 := by decide +kernel
  rw [upperCode]
  split
  · next first last step upperFirst hfind =>
    have hrun := hruns _ (List.mem_of_find?_eq_some hfind)
    dsimp only at hrun
    omega
  · exact h

/-- Only the hyphen has nothing but hyphens for its upper case. -/
theorem upperChar_subset_hyphen_iff (c : Char) : (∀ u ∈ upperChar c, u = '-') ↔ c = '-' := by
  constructor
  · intro h
    by_cases hascii : c.toNat < 128
    · rw [upperChar_of_ascii hascii, List.forall_mem_singleton] at h
      rcases toUpper_cases c with hsame | halpha
      · exact hsame.symm.trans h
      · rw [h] at halpha
        cases halpha
    · have hlong : ∀ entry ∈ upperLong, ∃ code ∈ entry.2, code ≠ 0x2d := by decide +kernel
      exfalso
      rw [upperChar, if_neg hascii] at h
      split at h
      · next codes hcodes =>
        obtain ⟨before, behind, htable, -⟩ := List.lookup_eq_some_iff.mp hcodes
        have hentry : (c.toNat, codes) ∈ upperLong := by simp [htable]
        obtain ⟨code, hcode, hne⟩ := hlong _ hentry
        exact ofNat_ne_hyphen hne (h _ (List.mem_map_of_mem hcode))
      · rw [List.forall_mem_singleton] at h
        exact ofNat_ne_hyphen (upperCode_ne_hyphen (by omega)) h
  · rintro rfl
    rw [upperChar_of_ascii (by decide), List.forall_mem_singleton]
    rfl

end Text

end HelpText
