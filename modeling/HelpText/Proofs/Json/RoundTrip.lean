import HelpText.Proofs.Json.Strings
import Mathlib.Data.List.TakeWhile

/-!
Reading back what was written. Main statement: a JSON value is read back from its text, whatever
stands in its strings, if each of its floating-point numbers is.
-/

namespace HelpText

namespace Json

open Reader

section Numbers

/-- What cannot go on with digits. -/
def EndsDigits (rest : Text) : Prop := ∀ c, rest.head? = some c → c.isDigit = false

/-- What cannot go on with a number: a text that does not begin with a digit, a point or the mark of
an exponent. -/
def EndsNumber (rest : Text) : Prop :=
  ∀ c, rest.head? = some c → c.isDigit = false ∧ c ≠ '.' ∧ c ≠ 'e' ∧ c ≠ 'E'

theorem EndsNumber.endsDigits {rest : Text} (h : EndsNumber rest) : EndsDigits rest :=
  fun c hc => (h c hc).1

theorem endsNumber_nil : EndsNumber [] := by
  intro c hc
  cases hc

theorem endsDigits_cons {c : Char} (h : c.isDigit = false) (rest : Text) :
    EndsDigits (c :: rest) := by
  intro first hfirst
  rwa [← Option.some.inj hfirst]

theorem takeWhile_digits {digits rest : Text} (hdigits : ∀ c ∈ digits, c.isDigit)
    (hrest : EndsDigits rest) : (digits ++ rest).takeWhile Char.isDigit = digits := by
  have hnone : rest.takeWhile Char.isDigit = [] := by
    cases rest with
    | nil => rfl
    | cons c rest => exact List.takeWhile_cons_of_neg (by simp [hrest c rfl])
  rw [List.takeWhile_append_of_pos hdigits, hnone, List.append_nil]

theorem dropWhile_digits {digits rest : Text} (hdigits : ∀ c ∈ digits, c.isDigit)
    (hrest : EndsDigits rest) : (digits ++ rest).dropWhile Char.isDigit = rest := by
  have hparts := List.takeWhile_append_dropWhile (p := Char.isDigit) (l := digits ++ rest)
  rw [takeWhile_digits hdigits hrest] at hparts
  exact List.append_cancel_left hparts

theorem fraction?_of_ends {rest : Text} (h : EndsNumber rest) :
    fraction? rest = some ([], rest) := by
  cases rest with
  | nil => rfl
  | cons c rest => simp [fraction?, (h c rfl).2.1]

theorem exponent?_of_ends {rest : Text} (h : EndsNumber rest) :
    exponent? rest = some ([], rest) := by
  cases rest with
  | nil => rfl
  | cons c rest => simp [exponent?, (h c rfl).2.2.1, (h c rfl).2.2.2]

/-- Decimal digits begin with a zero only for zero itself. -/
theorem head?_decimal {n : Nat} (h : 0 < n) : (Text.decimal n).head? ≠ some '0' := by
  induction n using Nat.strongRecOn with
  | ind n ih =>
    have hbase : 1 < 10 := by decide
    rcases Nat.lt_or_ge n 10 with hsmall | hlarge
    · rw [Text.decimal, Nat.toDigits_of_lt_base hsmall]
      have hdigits : ∀ d < 10, 0 < d → Nat.digitChar d ≠ '0' := by decide
      simpa using hdigits n hsmall h
    · have hfewer := ih (n / 10) (by omega) (by omega)
      rw [Text.decimal, Nat.toDigits_of_base_le hbase hlarge]
      rw [Text.decimal] at hfewer
      rwa [List.head?_append, Option.or_of_isSome (by simp [Nat.toDigits_ne_nil])]

theorem isDigit_of_mem_decimal {n : Nat} {c : Char} (h : c ∈ Text.decimal n) : c.isDigit :=
  Nat.isDigit_of_mem_toDigits (by decide) (by decide) h

theorem magnitude?_decimal (negative : Bool) (n : Nat) {rest : Text} (hrest : EndsNumber rest) :
    magnitude? negative (Text.decimal n ++ rest) =
      some (.integer (if negative then -(n : Int) else n), rest) := by
  have hdigits : ∀ c ∈ Text.decimal n, c.isDigit := fun c h => isDigit_of_mem_decimal h
  have hvalue : Nat.ofDigitChars 10 (Text.decimal n) 0 = n :=
    Nat.ofDigitChars_toDigits (by decide) (by decide)
  have hfew : ((Text.decimal n).isEmpty ||
      ((Text.decimal n).head? = some '0' && (Text.decimal n).length ≠ 1)) = false := by
    rcases Nat.eq_zero_or_pos n with rfl | hpos
    · decide
    · have hhead := head?_decimal hpos
      have hne : Text.decimal n ≠ [] := Nat.toDigits_ne_nil
      simp [hhead, hne]
  simp only [magnitude?, takeWhile_digits hdigits hrest.endsDigits,
    dropWhile_digits hdigits hrest.endsDigits, hfew,
    fraction?_of_ends hrest, exponent?_of_ends hrest, hvalue, Option.bind_eq_bind,
    Option.bind_some]
  rfl

/-- An integer is read back from its digits. -/
theorem number?_decimalInt (n : Int) {rest : Text} (hrest : EndsNumber rest) :
    number? (Text.decimalInt n ++ rest) = some (.integer n, rest) := by
  cases n with
  | negSucc n => exact magnitude?_decimal true (n + 1) hrest
  | ofNat n =>
    have hread := magnitude?_decimal false n hrest
    have hdigits : ∀ c ∈ Text.decimal n, c.isDigit := fun c h => isDigit_of_mem_decimal h
    change number? (Text.decimal n ++ rest) = some (.integer n, rest)
    cases ht : Text.decimal n with
    | nil => exact absurd ht Nat.toDigits_ne_nil
    | cons c digits =>
      -- The digits have no sign, so the number is not read as a negative one.
      have hc : c ≠ '-' := by
        rintro rfl
        have hminus : Char.isDigit '-' := hdigits '-' (ht ▸ List.mem_cons_self)
        exact absurd hminus (by decide)
      rw [ht] at hread
      rw [List.cons_append] at hread ⊢
      rw [number?]
      · exact hread
      · exact fun rest' h => hc (List.cons.inj h).1

end Numbers

section Values

mutual

/-- What the text of a value says: halves that stand together are one character. -/
def content : Json → Content
  | .null => .null
  | .boolean value => .boolean value
  | .integer value => .integer value
  | .float value => .decimal (floatText value)
  | .string value => .string value.raw
  | .rawString value => .string (joined value)
  | .array items => .array (contents items)
  | .object members => .object (memberContents members)

def contents : List Json → List Content
  | [] => []
  | item :: rest => content item :: contents rest

def memberContent : Text × Json → RawText × Content
  | (key, value) => (key.raw, content value)

def memberContents : List (Text × Json) → List (RawText × Content)
  | [] => []
  | member :: rest => memberContent member :: memberContents rest

end

/-- A floating-point number whose text is read as a number, spelt as it is. -/
def ReadableFloat (x : Binary64) : Prop :=
  ∀ rest, EndsNumber rest →
    number? (floatText x ++ rest) = some (.decimal (floatText x), rest)

mutual

/-- All floating-point numbers in a value are readable. -/
def Readable : Json → Prop
  | .float value => ReadableFloat value
  | .array items => ItemsReadable items
  | .object members => MembersReadable members
  | _ => True

def ItemsReadable : List Json → Prop
  | [] => True
  | item :: rest => Readable item ∧ ItemsReadable rest

def MemberReadable : Text × Json → Prop
  | (_, value) => Readable value

def MembersReadable : List (Text × Json) → Prop
  | [] => True
  | member :: rest => MemberReadable member ∧ MembersReadable rest

end

theorem skipSpace_space (t : Text) : skipSpace (' ' :: t) = skipSpace t := rfl

/-- A number begins with a sign or a digit. -/
theorem head_of_number? {t : Text} {result : Content × Text} (h : number? t = some result) :
    ∃ c rest, t = c :: rest ∧ (c = '-' ∨ c.isDigit) := by
  cases t with
  | nil => cases h
  | cons c rest =>
    refine ⟨c, rest, rfl, ?_⟩
    by_contra hnot
    obtain ⟨hminus, hdigit⟩ := not_or.mp hnot
    -- Without either there are no digits, and a number needs some.
    rw [number?.eq_2 _ (fun rest' h => hminus (List.cons.inj h).1), magnitude?] at h
    simp [hdigit] at h

/-- Where a number stands, a value is that number. -/
theorem value?_of_number? {t : Text} {result : Content × Text} (h : number? t = some result)
    (fuel : Nat) : value? (fuel + 1) t = some result := by
  obtain ⟨c, rest, rfl, hc⟩ := head_of_number? h
  have hother (other : Char) (hfirst : ¬(other = '-' ∨ other.isDigit)) : c ≠ other := by
    rintro rfl
    exact hfirst hc
  have hspace : skipSpace (c :: rest) = c :: rest := by
    refine List.dropWhile_cons_of_neg ?_
    simp [isSpace, hother ' ' (by decide), hother '\t' (by decide), hother '\n' (by decide),
      hother '\r' (by decide)]
  rw [value?, hspace]
  -- No other kind of value begins with a sign or a digit.
  split
  case h_7 => exact h
  all_goals
    next heq => exact absurd (List.cons.inj heq).1 (hother _ (by decide))

/-- Blanks before a value are passed over. -/
theorem value?_space (fuel : Nat) (t : Text) : value? fuel (' ' :: t) = value? fuel t := by
  cases fuel with
  | zero => rfl
  | succ fuel => rw [value?, value?, skipSpace_space]

theorem items?_space (fuel : Nat) (t : Text) : items? fuel (' ' :: t) = items? fuel t := by
  cases fuel with
  | zero => rfl
  | succ fuel => rw [items?, items?, value?_space]

theorem members?_space (fuel : Nat) (t : Text) : members? fuel (' ' :: t) = members? fuel t := by
  cases fuel with
  | zero => rfl
  | succ fuel => rw [members?, members?, skipSpace_space]

/-- No value begins with a closing bracket. -/
theorem items?_bracket {t rest : Text} (h : skipSpace t = ']' :: rest) (fuel : Nat) :
    items? fuel t = none := by
  have hvalue (fuel : Nat) : value? fuel t = none := by
    cases fuel with
    | zero => rfl
    | succ fuel =>
      rw [value?, h]
      rfl
  cases fuel with
  | zero => rfl
  | succ fuel =>
    rw [items?, hvalue]
    rfl

theorem items?_last {fuel : Nat} {t rest : Text} {first : Content}
    (h : value? fuel t = some (first, ']' :: rest)) :
    items? (fuel + 1) t = some ([first], rest) := by
  rw [items?, h]
  rfl

theorem items?_more {fuel : Nat} {t rest last : Text} {first : Content} {items : List Content}
    (h : value? fuel t = some (first, ',' :: rest))
    (hitems : items? fuel rest = some (items, last)) :
    items? (fuel + 1) t = some (first :: items, last) := by
  rw [items?, h]
  change (items? fuel rest).map _ = _
  rw [hitems]
  rfl

/-- Behind a key and its colon stands the value. -/
theorem members?_key (fuel : Nat) (key t : Text) :
    members? (fuel + 1) (stringText key ++ [':', ' '] ++ t) =
      (value? fuel t).bind fun (value, rest) =>
        match skipSpace rest with
        | ',' :: rest =>
          (members? fuel rest).map fun (members, rest) => ((key.raw, value) :: members, rest)
        | '\x7d' :: rest => some ([(key.raw, value)], rest)
        | _ => none := by
  have htext : stringText key ++ [':', ' '] ++ t =
      '"' :: (key.flatMap escapedChar ++ '"' :: ':' :: ' ' :: t) := by simp [stringText]
  rw [htext, members?]
  change (string? _).bind _ = _
  rw [string?_stringText, ← value?_space fuel t]
  rfl

theorem members?_last {fuel : Nat} {key t rest : Text} {value : Content}
    (h : value? fuel t = some (value, '\x7d' :: rest)) :
    members? (fuel + 1) (stringText key ++ [':', ' '] ++ t) = some ([(key.raw, value)], rest) := by
  rw [members?_key, h]
  rfl

theorem members?_more {fuel : Nat} {key t rest last : Text} {value : Content}
    {members : List (RawText × Content)} (h : value? fuel t = some (value, ',' :: rest))
    (hmembers : members? fuel rest = some (members, last)) :
    members? (fuel + 1) (stringText key ++ [':', ' '] ++ t) =
      some ((key.raw, value) :: members, last) := by
  rw [members?_key, h]
  change (members? fuel rest).map _ = _
  rw [hmembers]
  rfl

theorem endsNumber_cons {c : Char} (rest : Text) (h : c ∈ [',', ']', '\x7d']) :
    EndsNumber (c :: rest) := by
  intro other hother
  obtain rfl : c = other := Option.some.inj hother
  simp only [List.mem_cons, List.not_mem_nil, or_false] at h
  rcases h with rfl | rfl | rfl <;> decide

theorem join_itemTexts (item next : Json) (items : List Json) :
    Text.join [',', ' '] (itemTexts (item :: next :: items)) =
      text item ++ ',' :: ' ' :: Text.join [',', ' '] (itemTexts (next :: items)) := by
  simp [itemTexts, Text.join]

theorem join_memberTexts (key : Text) (value : Json) (next : Text × Json)
    (members : List (Text × Json)) :
    Text.join [',', ' '] (memberTexts ((key, value) :: next :: members)) =
      stringText key ++ [':', ' '] ++
        (text value ++ ',' :: ' ' :: Text.join [',', ' '] (memberTexts (next :: members))) := by
  simp [memberTexts, memberText, Text.join]

/-- Items that were read are not the empty text between two brackets. -/
theorem value?_array {fuel : Nat} {t rest : Text} {items : List Content}
    (h : items? fuel t = some (items, rest)) :
    value? (fuel + 1) ('[' :: t) = some (.array items, rest) := by
  rw [value?_bracket]
  split
  · next heq => rw [items?_bracket heq] at h; cases h
  · rw [h]; rfl

theorem value?_object {fuel : Nat} {t rest : Text} {members : List (RawText × Content)}
    (h : members? fuel t = some (members, rest)) :
    value? (fuel + 1) ('\x7b' :: t) = some (.object members, rest) := by
  have hnot (rest : Text) (hspace : skipSpace t = '\x7d' :: rest) : members? fuel t = none := by
    cases fuel with
    | zero => rfl
    | succ fuel => rw [members?, hspace]; rfl
  rw [value?_brace]
  split
  · next heq => rw [hnot _ heq] at h; cases h
  · rw [h]; rfl

mutual

/-- A value is read from its text, and what follows stays. -/
theorem value?_text : (value : Json) → Readable value → ∀ {fuel : Nat} {rest : Text},
    EndsNumber rest → 2 * (text value).length < fuel →
    value? fuel (text value ++ rest) = some (content value, rest)
  | .null, _, fuel + 1, rest, _, _ => rfl
  | .boolean true, _, fuel + 1, rest, _, _ => rfl
  | .boolean false, _, fuel + 1, rest, _, _ => rfl
  | .integer value, _, fuel + 1, rest, hrest, _ =>
    value?_of_number? (number?_decimalInt value hrest) fuel
  | .float value, hvalue, fuel + 1, rest, hrest, _ =>
    value?_of_number? (hvalue rest hrest) fuel
  | .string value, _, fuel + 1, rest, _, _ => by
    have hread := string?_stringText value rest
    have htext : text (.string value) ++ rest =
        '"' :: (value.flatMap escapedChar ++ '"' :: rest) := by simp [text, stringText]
    rw [htext, value?]
    change (string? _).map _ = _
    rw [hread]
    rfl
  | .rawString value, _, fuel + 1, rest, _, _ => by
    have hread := string?_rawStringText value rest
    have htext : text (.rawString value) ++ rest =
        '"' :: (value.flatMap escapedPoint ++ '"' :: rest) := by simp [text, rawStringText]
    rw [htext, value?]
    change (string? _).map _ = _
    rw [hread]
    rfl
  | .array [], _, fuel + 1, rest, _, _ => rfl
  | .array (first :: items), hvalue, fuel + 1, rest, hrest, hfuel => by
    have htext : text (.array (first :: items)) ++ rest =
        '[' :: (Text.join [',', ' '] (itemTexts (first :: items)) ++ ']' :: rest) := by
      simp [text]
    have hlength := congrArg List.length htext
    simp only [List.length_append, List.length_cons] at hlength
    rw [htext]
    -- The step into the array is paid for by its brackets.
    exact value?_array (items?_texts (first :: items) (List.cons_ne_nil _ _) hvalue (by omega))
  | .object [], _, fuel + 1, rest, _, _ => rfl
  | .object (first :: members), hvalue, fuel + 1, rest, hrest, hfuel => by
    have htext : text (.object (first :: members)) ++ rest =
        '\x7b' :: (Text.join [',', ' '] (memberTexts (first :: members)) ++ '\x7d' :: rest) := by
      simp [text]
    have hlength := congrArg List.length htext
    simp only [List.length_append, List.length_cons] at hlength
    rw [htext]
    exact value?_object (members?_texts (first :: members) (List.cons_ne_nil _ _) hvalue (by omega))

theorem items?_texts : (items : List Json) → items ≠ [] → ItemsReadable items →
    ∀ {fuel : Nat} {rest : Text},
    2 * (Text.join [',', ' '] (itemTexts items)).length + 1 < fuel →
    items? fuel (Text.join [',', ' '] (itemTexts items) ++ ']' :: rest) =
      some (contents items, rest)
  | [item], _, hitems, fuel + 1, rest, hfuel => by
    change 2 * (text item).length + 1 < fuel + 1 at hfuel
    exact items?_last (value?_text item hitems.1 (endsNumber_cons rest (by decide)) (by omega))
  | item :: next :: items, _, hitems, fuel + 1, rest, hfuel => by
    rw [join_itemTexts] at hfuel ⊢
    simp only [List.length_append, List.length_cons] at hfuel
    have hends : EndsNumber (',' :: ' ' ::
        (Text.join [',', ' '] (itemTexts (next :: items)) ++ ']' :: rest)) :=
      endsNumber_cons _ (by decide)
    have hshort : 2 * (text item).length < fuel := by omega
    have hfirst := value?_text item hitems.1 hends hshort
    have hmore :
        items? fuel (Text.join [',', ' '] (itemTexts (next :: items)) ++ ']' :: rest) = _ :=
      items?_texts (next :: items) (List.cons_ne_nil _ _) hitems.2 (by omega)
    rw [List.append_assoc]
    exact items?_more hfirst ((items?_space fuel _).trans hmore)

theorem members?_texts : (members : List (Text × Json)) → members ≠ [] → MembersReadable members →
    ∀ {fuel : Nat} {rest : Text},
    2 * (Text.join [',', ' '] (memberTexts members)).length + 1 < fuel →
    members? fuel (Text.join [',', ' '] (memberTexts members) ++ '\x7d' :: rest) =
      some (memberContents members, rest)
  | [(key, value)], _, hmembers, fuel + 1, rest, hfuel => by
    change 2 * (stringText key ++ [':', ' '] ++ text value).length + 1 < fuel + 1 at hfuel
    simp only [List.length_append] at hfuel
    have hends : EndsNumber ('\x7d' :: rest) := endsNumber_cons rest (by decide)
    have hshort : 2 * (text value).length < fuel := by omega
    have hvalue := value?_text value hmembers.1 hends hshort
    have htext : Text.join [',', ' '] (memberTexts [(key, value)]) ++ '\x7d' :: rest =
        stringText key ++ [':', ' '] ++ (text value ++ '\x7d' :: rest) := by
      simp [memberTexts, memberText, Text.join]
    rw [htext]
    exact members?_last hvalue
  | (key, value) :: next :: members, _, hmembers, fuel + 1, rest, hfuel => by
    rw [join_memberTexts] at hfuel ⊢
    simp only [List.length_append, List.length_cons] at hfuel
    have hends : EndsNumber (',' :: ' ' ::
        (Text.join [',', ' '] (memberTexts (next :: members)) ++ '\x7d' :: rest)) :=
      endsNumber_cons _ (by decide)
    have hshort : 2 * (text value).length < fuel := by omega
    have hvalue := value?_text value hmembers.1 hends hshort
    have hmore : members? fuel
        (Text.join [',', ' '] (memberTexts (next :: members)) ++ '\x7d' :: rest) = _ :=
      members?_texts (next :: members) (List.cons_ne_nil _ _) hmembers.2 (by omega)
    rw [List.append_assoc, List.append_assoc (text value)]
    exact members?_more hvalue ((members?_space fuel _).trans hmore)

end

/-- A value whose numbers are readable is read back from its text. -/
theorem read?_text {value : Json} (h : Readable value) :
    read? (text value) = some (content value) := by
  have hshort : 2 * (text value).length < 2 * (text value).length + 2 := by omega
  have hread := value?_text value h endsNumber_nil hshort
  rw [List.append_nil] at hread
  rw [read?, hread]
  rfl

end Values

end Json

end HelpText
