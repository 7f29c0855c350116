import HelpText.Proofs.Json.Reader
import Mathlib.Data.List.TakeWhile

/-!
Strings read back: each escape as the code point that it was written for, a character beyond the
first plane in two halves, and the halves joined again. Main statements: what the reader makes of
the text of a string and of a raw string.
-/

namespace HelpText

namespace Json

open Reader

/-- A character as JSON writes it: as it is, or in two halves. -/
def halves : CodePoint → RawText
  | .char c => (units c).filterMap CodePoint.ofNumber?
  | .surrogate offset => [.surrogate offset]

theorem hexValue?_digitChar : ∀ n < 16, hexValue? n.digitChar = some n := by decide

/-- A number below 65536 has four hexadecimal digits at most. -/
theorem padLeft_toDigits {n : Nat} (h : n < 0x10000) :
    Text.padLeft '0' 4 (Nat.toDigits 16 n) =
      [(n / 4096).digitChar, (n / 256 % 16).digitChar, (n / 16 % 16).digitChar,
        (n % 16).digitChar] := by
  have hzero : Nat.digitChar 0 = '0' := rfl
  have hbase : 1 < 16 := by decide
  rcases Nat.lt_or_ge n 16 with h₁ | h₁
  · have h₂ : n / 4096 = 0 ∧ n / 256 % 16 = 0 ∧ n / 16 % 16 = 0 ∧ n % 16 = n := by omega
    simp [Nat.toDigits_of_lt_base h₁, Text.padLeft, h₂, hzero, List.replicate]
  · rw [Nat.toDigits_of_base_le hbase h₁]
    rcases Nat.lt_or_ge (n / 16) 16 with h₂ | h₂
    · have h₃ : n / 4096 = 0 ∧ n / 256 % 16 = 0 ∧ n / 16 % 16 = n / 16 := by omega
      simp [Nat.toDigits_of_lt_base h₂, Text.padLeft, h₃, hzero, List.replicate]
    · rw [Nat.toDigits_of_base_le hbase h₂]
      rcases Nat.lt_or_ge (n / 16 / 16) 16 with h₃ | h₃
      · have h₄ : n / 4096 = 0 ∧ n / 256 % 16 = n / 16 / 16 := by omega
        simp [Nat.toDigits_of_lt_base h₃, Text.padLeft, h₄, hzero]
      · have h₄ : n / 16 / 16 / 16 < 16 := by omega
        have h₅ : n / 4096 = n / 16 / 16 / 16 ∧ n / 256 % 16 = n / 16 / 16 % 16 := by omega
        rw [Nat.toDigits_of_base_le hbase h₃, Nat.toDigits_of_lt_base h₄, h₅.1, h₅.2]
        rfl

theorem hexNumber?_digits {n : Nat} (h : n < 0x10000) :
    hexNumber? 0 [(n / 4096).digitChar, (n / 256 % 16).digitChar, (n / 16 % 16).digitChar,
      (n % 16).digitChar] = some n := by
  have h₁ := hexValue?_digitChar (n / 4096) (by omega)
  have h₂ := hexValue?_digitChar (n / 256 % 16) (by omega)
  have h₃ := hexValue?_digitChar (n / 16 % 16) (by omega)
  have h₄ := hexValue?_digitChar (n % 16) (by omega)
  simp only [hexNumber?, h₁, h₂, h₃, h₄, Option.bind_some, Option.some.injEq]
  omega

/-- The escape of a unit is read as the code point that has its number. -/
theorem points?_unitEscape {unit : Nat} {point : CodePoint} (hunit : unit < 0x10000)
    (hpoint : CodePoint.ofNumber? unit = some point) (rest : Text) :
    points? (unitEscape unit ++ rest) =
      (points? rest).map fun (points, rest) => (point :: points, rest) := by
  rw [unitEscape, padLeft_toDigits hunit]
  simp only [List.cons_append, List.nil_append, points?, hexNumber?_digits hunit,
    Option.bind_some, hpoint, Option.bind_eq_bind]
  cases points? rest <;> rfl

theorem points?_char {c : Char} (hlow : ' ' ≤ c) (hquote : c ≠ '"') (hslash : c ≠ '\\')
    (rest : Text) :
    points? (c :: rest) = (points? rest).map fun (points, rest) => (.char c :: points, rest) := by
  have hnot : ¬c < ' ' := Char.not_lt.mpr hlow
  rw [points?.eq_def]
  split
  · contradiction
  · simp_all
  · simp_all
  · simp_all
  · next other rest' _ _ _ heq =>
    obtain ⟨rfl, rfl⟩ := List.cons.inj heq
    simp only [hnot, hslash, decide_false, Bool.or_self, Bool.false_eq_true, ↓reduceIte]
    cases points? rest <;> rfl

/-- A letter behind a backslash is read as what it stands for. -/
theorem points?_letter {letter c : Char} (hletter : letter ≠ 'u') (hc : escaped? letter = some c)
    (rest : Text) :
    points? (['\\', letter] ++ rest) =
      (points? rest).map fun (points, rest) => (.char c :: points, rest) := by
  have hread : points? ('\\' :: letter :: rest) = (do
      let c ← escaped? letter
      let (points, rest) ← points? rest
      some (.char c :: points, rest)) := by
    rw [points?.eq_def]
    split
    · contradiction
    · simp_all
    · simp_all
    · simp_all
    · next hother heq =>
      obtain ⟨rfl, rfl⟩ := List.cons.inj heq
      exact absurd rfl (hother letter rest rfl)
  change points? ('\\' :: letter :: rest) = _
  rw [hread, hc]
  cases points? rest <;> rfl

theorem ofNumber?_toNat (c : Char) : CodePoint.ofNumber? c.toNat = some (.char c) :=
  CodePoint.ofNumber?_number (.char c)

/-- A character beyond the first plane is written in its two halves. -/
theorem halves_of_large {c : Char} (h : 0x10000 ≤ c.toNat) :
    ∃ high low : Fin 0x800, halves (.char c) = [.surrogate high, .surrogate low] ∧
      units c = [0xd800 + high.val, 0xd800 + low.val] ∧
      high.val < 0x400 ∧ 0x400 ≤ low.val ∧
      0x10000 + high.val * 0x400 + (low.val - 0x400) = c.toNat := by
  have hbound : c.toNat < 0x110000 := by
    rcases c.valid with hlow | ⟨-, hhigh⟩
    · change c.toNat < _ at hlow
      omega
    · exact hhigh
  have hunits : units c =
      [0xd800 + (c.toNat - 0x10000) / 0x400, 0xdc00 + (c.toNat - 0x10000) % 0x400] :=
    if_neg (by omega)
  refine ⟨⟨(c.toNat - 0x10000) / 0x400, by omega⟩, ⟨0x400 + (c.toNat - 0x10000) % 0x400, by omega⟩,
    ?_, ?_, by simp; omega, by simp, by simp; omega⟩
  · have hnumber (offset : Fin 0x800) :
        CodePoint.ofNumber? (0xd800 + offset.val) = some (.surrogate offset) :=
      CodePoint.ofNumber?_number (.surrogate offset)
    have hhigh := hnumber ⟨(c.toNat - 0x10000) / 0x400, by omega⟩
    have hlow := hnumber ⟨0x400 + (c.toNat - 0x10000) % 0x400, by omega⟩
    simp only [← Nat.add_assoc, Nat.reduceAdd] at hlow
    simp [halves, hunits, hhigh, hlow]
  · simp only [hunits, ← Nat.add_assoc, Nat.reduceAdd]

theorem halves_of_small {c : Char} (h : c.toNat < 0x10000) :
    units c = [c.toNat] ∧ halves (.char c) = [.char c] := by
  have hunits : units c = [c.toNat] := if_pos h
  exact ⟨hunits, by simp [halves, hunits, ofNumber?_toNat]⟩

/-- The escape of a character by its units is read in halves. -/
theorem points?_units (c : Char) (rest : Text) :
    points? ((units c).flatMap unitEscape ++ rest) =
      (points? rest).map fun (points, rest) => (halves (.char c) ++ points, rest) := by
  rcases Nat.lt_or_ge c.toNat 0x10000 with hsmall | hlarge
  · obtain ⟨hunits, hhalves⟩ := halves_of_small hsmall
    rw [hunits, hhalves, List.flatMap_singleton, points?_unitEscape hsmall (ofNumber?_toNat c)]
    rfl
  · obtain ⟨high, low, hhalves, hunits, -⟩ := halves_of_large hlarge
    have hnumber (offset : Fin 0x800) :
        CodePoint.ofNumber? (0xd800 + offset.val) = some (.surrogate offset) :=
      CodePoint.ofNumber?_number (.surrogate offset)
    rw [hunits, hhalves]
    simp only [List.flatMap_cons, List.flatMap_nil, List.append_nil, List.append_assoc]
    rw [points?_unitEscape (by omega) (hnumber high), points?_unitEscape (by omega) (hnumber low)]
    cases points? rest <;> rfl

/-- Whatever a character is escaped to is read as this character, in halves where it has two. -/
theorem points?_escapedPoint (point : CodePoint) (rest : Text) :
    points? (escapedPoint point ++ rest) =
      (points? rest).map fun (points, rest) => (halves point ++ points, rest) := by
  cases point with
  | surrogate offset =>
    have hnumber : CodePoint.ofNumber? (0xd800 + offset.val) = some (.surrogate offset) :=
      CodePoint.ofNumber?_number (.surrogate offset)
    exact points?_unitEscape (by omega) hnumber rest
  | char c =>
    have hplain (hsmall : c.toNat < 0x10000) :
        halves (.char c) = [.char c] := (halves_of_small hsmall).2
    rw [escapedPoint, escapedChar.eq_def]
    split
    case h_8 hquote hslash _ _ _ _ _ =>
      split
      · next hprintable =>
        obtain ⟨hlow, hhigh⟩ : ' ' ≤ c ∧ c ≤ '~' := by simpa using hprintable
        -- A printable character stands for itself, unless it is a quote or a backslash.
        have hsmall : c.toNat < 0x10000 := Nat.lt_of_le_of_lt hhigh (by decide)
        rw [hplain hsmall]
        exact points?_char hlow hquote hslash rest
      · exact points?_units c rest
    -- Seven characters have an escape of their own.
    all_goals
      rw [hplain (by decide)]
      exact points?_letter (by decide) rfl rest

theorem points?_raw (t : RawText) (rest : Text) :
    points? (t.flatMap escapedPoint ++ '"' :: rest) = some (t.flatMap halves, rest) := by
  induction t with
  | nil => rfl
  | cons point t ih =>
    rw [List.flatMap_cons, List.append_assoc, points?_escapedPoint, ih]
    rfl

/-- Text has no halves to join. -/
theorem joined_raw (t : Text) : joined t.raw = t.raw := by
  induction t with
  | nil => rfl
  | cons c t ih =>
    change joined (.char c :: Text.raw t) = .char c :: Text.raw t
    rw [joined, ih]
    simp

/-- Joined again, the halves of a character are the character. -/
theorem joined_halves_append (c : Char) (t : RawText) :
    joined (halves (.char c) ++ t) = .char c :: joined t := by
  rcases Nat.lt_or_ge c.toNat 0x10000 with hsmall | hlarge
  · rw [(halves_of_small hsmall).2, List.singleton_append, joined]
    simp
  · obtain ⟨high, low, hhalves, -, hhigh, hlow, hvalue⟩ := halves_of_large hlarge
    rw [hhalves, List.cons_append, List.singleton_append, joined, if_pos ⟨hhigh, hlow⟩, hvalue,
      Char.ofNat_toNat]

/-- A half before a character stays alone: the character begins with no second half. -/
theorem joined_surrogate_halves (half : Fin 0x800) (c : Char) (t : RawText) :
    joined (.surrogate half :: (halves (.char c) ++ t)) =
      .surrogate half :: joined (halves (.char c) ++ t) := by
  rcases Nat.lt_or_ge c.toNat 0x10000 with hsmall | hlarge
  · rw [(halves_of_small hsmall).2, List.singleton_append, joined]
    simp
  · obtain ⟨high, low, hhalves, -, hhigh, -⟩ := halves_of_large hlarge
    have hnot : ¬(half.val < 0x400 ∧ 0x400 ≤ high.val) := by omega
    rw [hhalves, List.cons_append, joined, if_neg hnot]

/-- Writing characters in halves makes no difference once the halves are joined. -/
theorem joined_halves (t : RawText) : joined (t.flatMap halves) = joined t := by
  -- The cases are those of joining: two halves that fit, two that do not, and anything else.
  fun_induction joined t with
  | case1 high low t hpair ih =>
    rw [List.flatMap_cons, List.flatMap_cons]
    simp only [halves, List.singleton_append]
    rw [joined, if_pos hpair, ih]
  | case2 high low t hpair ih =>
    rw [List.flatMap_cons] at ih ⊢
    rw [List.flatMap_cons]
    simp only [halves, List.singleton_append] at ih ⊢
    rw [joined, if_neg hpair, ih]
  | case3 point t hnot ih =>
    rw [List.flatMap_cons]
    cases point with
    | char c => rw [joined_halves_append, ih]
    | surrogate half =>
      change joined (.surrogate half :: t.flatMap halves) = .surrogate half :: joined t
      cases t with
      | nil => rfl
      | cons next t =>
        cases next with
        | surrogate low => exact absurd rfl (hnot half low t rfl)
        -- A half that was alone stays so, although the next character may be written in halves.
        | char c => rw [← ih, List.flatMap_cons, joined_surrogate_halves]
  | case4 => rfl

theorem string?_rawStringText (t : RawText) (rest : Text) :
    string? (t.flatMap escapedPoint ++ '"' :: rest) = some (joined t, rest) := by
  rw [string?, points?_raw]
  exact congrArg (fun points => some (points, rest)) (joined_halves t)

theorem string?_stringText (t rest : Text) :
    string? (t.flatMap escapedChar ++ '"' :: rest) = some (t.raw, rest) := by
  have hraw : t.flatMap escapedChar = (Text.raw t).flatMap escapedPoint := by
    simp [Text.raw, List.flatMap_map, escapedPoint]
  rw [hraw, string?_rawStringText, joined_raw]

end Json

end HelpText
