import HelpText.Proofs.Json.Numbers

/-!
Texts that are refused. What was written before a number that is not finite is read, and there the
reading ends, however deep the number stands. Main statement: the text of a value is no JSON exactly
if such a number stands somewhere in the value.
-/

namespace HelpText

namespace Json

open Reader

theorem prefix_join (separator first : Text) (pieces : List Text) :
    first <+: Text.join separator (first :: pieces) := by
  cases pieces with
  | nil => exact List.prefix_rfl
  | cons next rest =>
    rw [Text.join, List.append_assoc]
    exact List.prefix_append _ _

/-- A text begins with no blank and with no closing bracket. -/
theorem exists_head_text (value : Json) :
    ∃ c rest, text value = c :: rest ∧ isSpace c = false ∧ c ≠ ']' := by
  have hnumber {t : Text} {result : Content × Text} (h : number? t = some result) :
      ∃ c rest, t = c :: rest ∧ isSpace c = false ∧ c ≠ ']' := by
    obtain ⟨c, rest, htext, hc⟩ := head_of_number? h
    have hother (other : Char) (hfirst : ¬(other = '-' ∨ other.isDigit)) : c ≠ other := by
      rintro rfl
      exact hfirst hc
    refine ⟨c, rest, htext, ?_, hother ']' (by decide)⟩
    simp [isSpace, hother ' ' (by decide), hother '\t' (by decide), hother '\n' (by decide),
      hother '\r' (by decide)]
  cases value with
  | null => exact ⟨'n', _, rfl, by decide, by decide⟩
  | boolean value => cases value <;> exact ⟨_, _, rfl, by decide, by decide⟩
  | integer value =>
    have hread := number?_decimalInt value endsNumber_nil
    rw [List.append_nil] at hread
    exact hnumber hread
  | float value =>
    by_cases hvalue : value.IsFinite
    · have hread := readableFloat_of_isFinite hvalue [] endsNumber_nil
      rw [List.append_nil] at hread
      exact hnumber hread
    · cases value with
      | finite negative significand exponent => exact absurd trivial hvalue
      | notANumber => exact ⟨'N', _, rfl, by decide, by decide⟩
      | infinite negative => cases negative <;> exact ⟨_, _, rfl, by decide, by decide⟩
  | string value => exact ⟨'"', _, rfl, by decide, by decide⟩
  | rawString value => exact ⟨'"', _, rfl, by decide, by decide⟩
  | array items => exact ⟨'[', _, rfl, by decide, by decide⟩
  | object members => exact ⟨'\x7b', _, rfl, by decide, by decide⟩

section Steps

variable {fuel : Nat} {t rest : Text} {first : Content}

theorem items?_of_none (h : value? fuel t = none) : items? (fuel + 1) t = none := by
  rw [items?, h]
  rfl

theorem items?_of_more_none (h : value? fuel t = some (first, ',' :: rest))
    (hitems : items? fuel rest = none) : items? (fuel + 1) t = none := by
  rw [items?, h]
  change (items? fuel rest).map _ = _
  rw [hitems]
  rfl

theorem members?_of_none {key : Text} (h : value? fuel t = none) :
    members? (fuel + 1) (stringText key ++ [':', ' '] ++ t) = none := by
  rw [members?_key, h]
  rfl

theorem members?_of_more_none {key : Text} (h : value? fuel t = some (first, ',' :: rest))
    (hmembers : members? fuel rest = none) :
    members? (fuel + 1) (stringText key ++ [':', ' '] ++ t) = none := by
  rw [members?_key, h]
  change (members? fuel rest).map _ = _
  rw [hmembers]
  rfl

/-- Behind a bracket stand items, unless the closing bracket follows at once. -/
theorem value?_array_none (value : Json) (h : items? fuel (text value ++ rest) = none) :
    value? (fuel + 1) ('[' :: (text value ++ rest)) = none := by
  obtain ⟨c, later, htext, hspace, hbracket⟩ := exists_head_text value
  rw [htext, List.cons_append] at h ⊢
  have hskip : skipSpace (c :: (later ++ rest)) = c :: (later ++ rest) :=
    List.dropWhile_cons_of_neg (by simp [hspace])
  rw [value?_bracket, hskip]
  split
  · next heq => exact absurd (List.cons.inj heq).1 hbracket
  · rw [h]
    rfl

theorem value?_object_none (key : Text) (h : members? fuel (stringText key ++ rest) = none) :
    value? (fuel + 1) ('\x7b' :: (stringText key ++ rest)) = none := by
  rw [value?_brace]
  change (members? fuel (stringText key ++ rest)).map _ = _
  rw [h]
  rfl

end Steps

mutual

/-- No value is read from the text of one that holds an unreadable number. -/
theorem value?_text_none : (value : Json) → ¬Readable value → ∀ {fuel : Nat} {rest : Text},
    EndsNumber rest → 2 * (text value).length < fuel → value? fuel (text value ++ rest) = none
  | .null, hvalue, _, _, _, _ => absurd trivial hvalue
  | .boolean _, hvalue, _, _, _, _ => absurd trivial hvalue
  | .integer _, hvalue, _, _, _, _ => absurd trivial hvalue
  | .string _, hvalue, _, _, _, _ => absurd trivial hvalue
  | .rawString _, hvalue, _, _, _, _ => absurd trivial hvalue
  | .float value, hvalue, fuel, rest, _, _ =>
    value?_floatText_none (mt (readableFloat_iff value).mpr hvalue) fuel rest
  | .array [], hvalue, _, _, _, _ => absurd trivial hvalue
  | .array (first :: items), hvalue, fuel + 1, rest, hrest, hfuel => by
    have hlength : (text (.array (first :: items))).length =
        (Text.join [',', ' '] (itemTexts (first :: items))).length + 2 := by
      simp [text]
    have hitems : items? fuel (Text.join [',', ' '] (itemTexts (first :: items)) ++ ']' :: rest) =
        none := items?_texts_none (first :: items) (List.cons_ne_nil _ _) hvalue (by omega)
    -- The text of the first item stands right behind the bracket.
    obtain ⟨later, hlater⟩ : text first <+: Text.join [',', ' '] (itemTexts (first :: items)) :=
      prefix_join _ _ _
    have htext : text (.array (first :: items)) ++ rest =
        '[' :: (text first ++ (later ++ ']' :: rest)) := by
      simp [text, ← hlater]
    rw [← hlater, List.append_assoc] at hitems
    rw [htext]
    exact value?_array_none first hitems
  | .object [], hvalue, _, _, _, _ => absurd trivial hvalue
  | .object ((key, value) :: members), hvalue, fuel + 1, rest, hrest, hfuel => by
    have hlength : (text (.object ((key, value) :: members))).length =
        (Text.join [',', ' '] (memberTexts ((key, value) :: members))).length + 2 := by
      simp [text]
    have hmembers : members? fuel
        (Text.join [',', ' '] (memberTexts ((key, value) :: members)) ++ '\x7d' :: rest) = none :=
      members?_texts_none ((key, value) :: members) (List.cons_ne_nil _ _) hvalue (by omega)
    obtain ⟨later, hlater⟩ : stringText key <+:
        Text.join [',', ' '] (memberTexts ((key, value) :: members)) := by
      apply List.IsPrefix.trans _ (prefix_join _ _ _)
      rw [memberText, List.append_assoc]
      exact List.prefix_append _ _
    have htext : text (.object ((key, value) :: members)) ++ rest =
        '\x7b' :: (stringText key ++ (later ++ '\x7d' :: rest)) := by
      simp [text, ← hlater]
    rw [← hlater, List.append_assoc] at hmembers
    rw [htext]
    exact value?_object_none key hmembers

theorem items?_texts_none : (items : List Json) → items ≠ [] → ¬ItemsReadable items →
    ∀ {fuel : Nat} {rest : Text},
    2 * (Text.join [',', ' '] (itemTexts items)).length + 1 < fuel →
    items? fuel (Text.join [',', ' '] (itemTexts items) ++ ']' :: rest) = none
  | [item], _, hitems, fuel + 1, rest, hfuel => by
    change 2 * (text item).length + 1 < fuel + 1 at hfuel
    have hitem : ¬Readable item := fun h => hitems ⟨h, trivial⟩
    exact items?_of_none
      (value?_text_none item hitem (endsNumber_cons rest (by decide)) (by omega))
  | item :: next :: items, _, hitems, fuel + 1, rest, hfuel => by
    rw [join_itemTexts] at hfuel ⊢
    simp only [List.length_append, List.length_cons] at hfuel
    have hends : EndsNumber (',' :: ' ' ::
        (Text.join [',', ' '] (itemTexts (next :: items)) ++ ']' :: rest)) :=
      endsNumber_cons _ (by decide)
    have hshort : 2 * (text item).length < fuel := by omega
    rw [List.append_assoc]
    by_cases hitem : Readable item
    · have hmore : items? fuel (Text.join [',', ' '] (itemTexts (next :: items)) ++ ']' :: rest) =
          none :=
        items?_texts_none (next :: items) (List.cons_ne_nil _ _) (fun h => hitems ⟨hitem, h⟩)
          (by omega)
      exact items?_of_more_none (value?_text item hitem hends hshort)
        ((items?_space fuel _).trans hmore)
    · exact items?_of_none (value?_text_none item hitem hends hshort)

theorem members?_texts_none : (members : List (Text × Json)) → members ≠ [] →
    ¬MembersReadable members → ∀ {fuel : Nat} {rest : Text},
    2 * (Text.join [',', ' '] (memberTexts members)).length + 1 < fuel →
    members? fuel (Text.join [',', ' '] (memberTexts members) ++ '\x7d' :: rest) = none
  | [(key, value)], _, hmembers, fuel + 1, rest, hfuel => by
    change 2 * (stringText key ++ [':', ' '] ++ text value).length + 1 < fuel + 1 at hfuel
    simp only [List.length_append] at hfuel
    have hvalue : ¬Readable value := fun h => hmembers ⟨h, trivial⟩
    have hends : EndsNumber ('\x7d' :: rest) := endsNumber_cons rest (by decide)
    have htext : Text.join [',', ' '] (memberTexts [(key, value)]) ++ '\x7d' :: rest =
        stringText key ++ [':', ' '] ++ (text value ++ '\x7d' :: rest) := by
      simp [memberTexts, memberText, Text.join]
    rw [htext]
    exact members?_of_none (value?_text_none value hvalue hends (by omega))
  | (key, value) :: next :: members, _, hmembers, fuel + 1, rest, hfuel => by
    rw [join_memberTexts] at hfuel ⊢
    simp only [List.length_append, List.length_cons] at hfuel
    have hends : EndsNumber (',' :: ' ' ::
        (Text.join [',', ' '] (memberTexts (next :: members)) ++ '\x7d' :: rest)) :=
      endsNumber_cons _ (by decide)
    have hshort : 2 * (text value).length < fuel := by omega
    rw [List.append_assoc, List.append_assoc (text value)]
    by_cases hvalue : Readable value
    · have hmore : members? fuel
          (Text.join [',', ' '] (memberTexts (next :: members)) ++ '\x7d' :: rest) = none :=
        members?_texts_none (next :: members) (List.cons_ne_nil _ _)
          (fun h => hmembers ⟨hvalue, h⟩) (by omega)
      exact members?_of_more_none (value?_text value hvalue hends hshort)
        ((members?_space fuel _).trans hmore)
    · exact members?_of_none (value?_text_none value hvalue hends hshort)

end

/-- A text is no JSON exactly if the value holds an unreadable number. -/
theorem read?_text_eq_none_iff (value : Json) : read? (text value) = none ↔ ¬Readable value := by
  constructor
  · intro h hvalue
    rw [read?_text hvalue] at h
    cases h
  · intro hvalue
    have hshort : 2 * (text value).length < 2 * (text value).length + 2 := by omega
    have hread := value?_text_none value hvalue endsNumber_nil hshort
    rw [List.append_nil] at hread
    rw [read?, hread]
    rfl

end Json

end HelpText
