import HelpText.Json

/-!
The characters of a JSON text. Main statement: they are printable ASCII, whatever the value is.
-/

namespace HelpText

namespace Text

/-- The characters are those of ASCII that can be printed. -/
def IsAscii (t : Text) : Prop := ∀ c ∈ t, ' ' ≤ c ∧ c ≤ '~'

instance (t : Text) : Decidable t.IsAscii := List.decidableBAll _ t

theorem printable_of_alphanum {c : Char} (h : c.isAlphanum = true) : ' ' ≤ c ∧ c ≤ '~' := by
  have hwithin (low high : Char) (hlow : ' ' ≤ low) (hhigh : high ≤ '~') (hc : low ≤ c ∧ c ≤ high) :
      ' ' ≤ c ∧ c ≤ '~' := ⟨Char.le_trans hlow hc.1, Char.le_trans hc.2 hhigh⟩
  rcases Bool.or_eq_true_iff.mp h with halpha | hdigit
  · rcases Bool.or_eq_true_iff.mp halpha with hupper | hlower
    · exact hwithin 'A' 'Z' (by decide) (by decide) (of_decide_eq_true hupper)
    · obtain ⟨hfirst, hlast⟩ := Bool.and_eq_true_iff.mp hlower
      exact hwithin 'a' 'z' (by decide) (by decide)
        ⟨of_decide_eq_true hfirst, of_decide_eq_true hlast⟩
  · obtain ⟨hfirst, hlast⟩ := Bool.and_eq_true_iff.mp hdigit
    exact hwithin '0' '9' (by decide) (by decide)
      ⟨of_decide_eq_true hfirst, of_decide_eq_true hlast⟩

namespace IsAscii

theorem append {s t : Text} (hs : s.IsAscii) (ht : t.IsAscii) : IsAscii (s ++ t) := by
  intro c hc
  rcases List.mem_append.mp hc with h | h
  · exact hs c h
  · exact ht c h

theorem cons {c : Char} {t : Text} (hc : ' ' ≤ c ∧ c ≤ '~') (ht : t.IsAscii) :
    IsAscii (c :: t) :=
  List.forall_mem_cons.mpr ⟨hc, ht⟩

theorem of_subset {s t : Text} (ht : t.IsAscii) (h : s ⊆ t) : s.IsAscii := fun c hc => ht c (h hc)

theorem flatMap {α : Type} {f : α → Text} {items : List α} (h : ∀ item ∈ items, IsAscii (f item)) :
    IsAscii (items.flatMap f) := by
  intro c hc
  obtain ⟨item, hitem, hmem⟩ := List.mem_flatMap.mp hc
  exact h item hitem c hmem

theorem replicate {n : Nat} {c : Char} (hc : ' ' ≤ c ∧ c ≤ '~') : IsAscii (List.replicate n c) := by
  intro other hother
  rw [(List.mem_replicate.mp hother).2]
  exact hc

theorem join {separator : Text} {pieces : List Text} (hseparator : separator.IsAscii)
    (hpieces : ∀ piece ∈ pieces, piece.IsAscii) : IsAscii (Text.join separator pieces) := by
  induction pieces with
  | nil => intro c hc; cases hc
  | cons piece pieces ih =>
    have hrest := ih fun other h => hpieces other (List.mem_cons_of_mem _ h)
    have hpiece := hpieces piece List.mem_cons_self
    cases pieces with
    | nil => exact hpiece
    | cons next pieces => exact (hpiece.append hseparator).append hrest

theorem digits {base : Nat} (h : 1 < base) (hbase : base ≤ 16) (n : Nat) :
    IsAscii (Nat.toDigits base n) := by
  have hdigit : ∀ d < 16, IsAscii [Nat.digitChar d] := by decide
  induction n using Nat.strongRecOn with
  | ind n ih =>
    rcases Nat.lt_or_ge n base with hsmall | hlarge
    · rw [Nat.toDigits_of_lt_base hsmall]
      exact hdigit n (Nat.lt_of_lt_of_le hsmall hbase)
    · have hfewer : n / base < n := Nat.div_lt_self (by omega) h
      have hlast : n % base < base := Nat.mod_lt n (by omega)
      rw [Nat.toDigits_of_base_le h hlarge]
      exact (ih (n / base) hfewer).append (hdigit _ (Nat.lt_of_lt_of_le hlast hbase))

theorem decimal (n : Nat) : IsAscii (Text.decimal n) := digits (by decide) (by decide) n

theorem decimalInt (n : Int) : IsAscii (Text.decimalInt n) := by
  cases n with
  | ofNat n => exact decimal n
  | negSucc n => exact cons (by decide) (decimal (n + 1))

theorem padLeft {filler : Char} {t : Text} (hfiller : ' ' ≤ filler ∧ filler ≤ '~')
    (ht : t.IsAscii) (width : Nat) : IsAscii (Text.padLeft filler width t) :=
  (replicate hfiller).append ht

end IsAscii

end Text

open Text

namespace Binary64

theorem layout_ascii {digits : Text} (h : digits.IsAscii) (leading : Int) :
    (layout digits leading).IsAscii := by
  have hzeros (n : Nat) : IsAscii (List.replicate n '0') := .replicate (by decide)
  have hsign : ' ' ≤ (if leading < 0 then '-' else '+') ∧
      (if leading < 0 then '-' else '+') ≤ '~' := by split <;> decide
  rw [layout.eq_def]
  split
  · split
    · exact IsAscii.append (IsAscii.append (by decide) (hzeros _)) h
    · refine IsAscii.append (IsAscii.append (IsAscii.append ?_ (hzeros _)) (by decide)) ?_
      · exact h.of_subset (List.take_subset _ _)
      · split
        · decide
        · exact h.of_subset (List.drop_subset _ _)
  · have hexponent : IsAscii ['e', if leading < 0 then '-' else '+'] :=
      .cons (by decide) (.cons hsign fun c hc => by cases hc)
    refine IsAscii.append (IsAscii.append ?_ hexponent) (IsAscii.padLeft (by decide) (.decimal _) 2)
    rcases digits with _ | ⟨first, _ | ⟨second, rest⟩⟩
    · exact h
    · exact h
    · exact .cons (h first (by simp)) (.cons (by decide) (h.of_subset (by simp)))

theorem text_ascii (x : Binary64) : x.text.IsAscii := by
  cases x with
  | notANumber => decide
  | infinite negative => cases negative <;> decide
  | finite negative significand exponent =>
    have hsign : IsAscii (if negative then ['-'] else []) := by cases negative <;> decide
    refine hsign.append ?_
    split
    · decide
    · have hdigits : IsAscii (Nat.toDigits 10 (shortest significand exponent).digits) := .decimal _
      refine layout_ascii (hdigits.of_subset ?_) _
      intro c hc
      have hkept := List.dropWhile_subset _ (List.mem_reverse.mp hc)
      exact List.mem_reverse.mp hkept

end Binary64

namespace Json

theorem unitEscape_ascii (unit : Nat) : (unitEscape unit).IsAscii :=
  (by decide : IsAscii ['\\', 'u']).append
    ((IsAscii.digits (by decide) (by decide) unit).padLeft (by decide) 4)

theorem escapedChar_ascii (c : Char) : (escapedChar c).IsAscii := by
  rw [escapedChar.eq_def]
  split
  case h_8 =>
    split
    · next hprintable => exact IsAscii.cons (by simpa using hprintable) (fun _ h => by cases h)
    · exact IsAscii.flatMap fun unit _ => unitEscape_ascii unit
  all_goals decide

theorem escapedPoint_ascii (point : CodePoint) : (escapedPoint point).IsAscii := by
  cases point with
  | char c => exact escapedChar_ascii c
  | surrogate offset => exact unitEscape_ascii _

theorem quoted_ascii {t : Text} (h : t.IsAscii) : IsAscii ('"' :: t ++ ['"']) :=
  IsAscii.append (.cons (by decide) h) (by decide)

theorem floatText_ascii (x : Binary64) : (floatText x).IsAscii := by
  cases x with
  | notANumber => decide
  | infinite negative => cases negative <;> decide
  | finite negative significand exponent =>
    exact Binary64.text_ascii (.finite negative significand exponent)

mutual

/-- The text of a value is printable ASCII. -/
theorem text_ascii : (value : Json) → (text value).IsAscii
  | .null => by decide
  | .boolean true => by decide
  | .boolean false => by decide
  | .integer value => IsAscii.decimalInt value
  | .float value => floatText_ascii value
  | .string value => quoted_ascii (.flatMap fun c _ => escapedChar_ascii c)
  | .rawString value => quoted_ascii (.flatMap fun point _ => escapedPoint_ascii point)
  | .array items =>
    IsAscii.append (.cons (by decide) (.join (by decide) (itemTexts_ascii items))) (by decide)
  | .object members =>
    IsAscii.append (.cons (by decide) (.join (by decide) (memberTexts_ascii members))) (by decide)

theorem itemTexts_ascii : (items : List Json) → ∀ t ∈ itemTexts items, t.IsAscii
  | [], _, h => by cases h
  | item :: rest, t, h => by
    rcases List.mem_cons.mp h with rfl | h
    · exact text_ascii item
    · exact itemTexts_ascii rest t h

theorem memberText_ascii : (member : Text × Json) → (memberText member).IsAscii
  | (_, value) =>
    ((quoted_ascii (.flatMap fun c _ => escapedChar_ascii c)).append (by decide)).append
      (text_ascii value)

theorem memberTexts_ascii : (members : List (Text × Json)) → ∀ t ∈ memberTexts members, t.IsAscii
  | [], _, h => by cases h
  | member :: rest, t, h => by
    rcases List.mem_cons.mp h with rfl | h
    · exact memberText_ascii member
    · exact memberTexts_ascii rest t h

end

end Json

end HelpText
