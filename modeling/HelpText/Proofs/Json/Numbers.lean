import HelpText.Proofs.Json.RoundTrip
import Mathlib.Data.List.DropRight

/-!
Floating-point numbers in JSON. Main statement: the text of a number is read back, whatever follows
it, exactly if the number is finite; the words for the others are no values at all.
-/

namespace HelpText

namespace Binary64

def IsFinite : Binary64 → Prop
  | .finite .. => True
  | .infinite _ | .notANumber => False

instance : DecidablePred IsFinite
  | .finite .. => .isTrue trivial
  | .infinite _ | .notANumber => .isFalse not_false

/-- Zero does not round to a number that is not zero. -/
theorem not_contains_zero {area : Neighbourhood} (h : 0 < area.lower) {denominator : Nat}
    (hdenominator : 0 < denominator) : area.contains 0 denominator = false := by
  have hlower : 0 < area.lower * denominator := Nat.mul_pos h hdenominator
  rw [Neighbourhood.contains]
  simp only [Nat.zero_mul]
  split
  · simp only [Bool.and_eq_false_iff, decide_eq_false_iff_not]
    omega
  · simp

theorem lower_pos {significand : Nat} (h : significand ≠ 0) (exponent : Int) :
    0 < (neighbourhood significand exponent).lower := by
  have hfactor : 0 < Nat.pow 2 (exponent - 2).toNat := Nat.pow_pos (by decide)
  apply Nat.mul_pos _ hfactor
  split <;> omega

theorem digits_pos_of_decimalWith? {area : Neighbourhood} (harea : 0 < area.lower) {count : Nat}
    {decimal : Decimal} (h : decimalWith? area count = some decimal) : 0 < decimal.digits := by
  -- Digits that are taken as they are lie inside, where zero does not lie.
  have hinside {digits down power : Nat}
      (hin : area.contains (digits * down) (Nat.pow 10 power) = true) : 0 < digits := by
    apply Nat.pos_of_ne_zero
    rintro rfl
    have hup : 0 < Nat.pow 10 power := Nat.pow_pos (by decide)
    rw [Nat.zero_mul, not_contains_zero harea hup] at hin
    cases hin
  simp only [decimalWith?] at h
  split at h
  · next hin _ =>
    split at h
    · exact Option.some.inj h ▸ hinside hin
    · exact Option.some.inj h ▸ Nat.succ_pos _
  · next hin _ => exact Option.some.inj h ▸ hinside hin
  · exact Option.some.inj h ▸ Nat.succ_pos _
  · cases h

/-- The shortest decimal of a number that is not zero is not zero. -/
theorem digits_shortest_pos {significand : Nat} (h : significand ≠ 0) (exponent : Int) :
    0 < (shortest significand exponent).digits := by
  rw [shortest]
  cases hfound : (List.range 17).findSome? fun i =>
      decimalWith? (neighbourhood significand exponent) (i + 1) with
  | none => exact Nat.pos_of_ne_zero h
  | some decimal =>
    obtain ⟨i, -, hi⟩ := List.exists_of_findSome?_eq_some hfound
    exact digits_pos_of_decimalWith? (lower_pos h exponent) hi

/-- The digits that are laid out begin with none that is zero. -/
theorem exists_dropZeros_decimal {n : Nat} (h : 0 < n) :
    ∃ first rest, dropZeros (Text.decimal n) = first :: rest ∧ first ≠ '0' ∧
      ∀ c ∈ first :: rest, c.isDigit := by
  have hhead := Json.head?_decimal h
  have hprefix : dropZeros (Text.decimal n) <+: Text.decimal n :=
    List.rdropWhile_prefix (· = '0') (Text.decimal n)
  cases hdigits : Text.decimal n with
  | nil => exact absurd hdigits Nat.toDigits_ne_nil
  | cons digit digits =>
    rw [hdigits] at hhead
    have hdigit : digit ≠ '0' := by simpa using hhead
    have hne : dropZeros (Text.decimal n) ≠ [] := by
      intro hnone
      have hall := List.rdropWhile_eq_nil_iff.mp hnone
      have hzero : decide (digit = '0') = true := hall digit (hdigits ▸ List.mem_cons_self)
      exact hdigit (of_decide_eq_true hzero)
    obtain ⟨first, rest, hkept⟩ := List.exists_cons_of_ne_nil hne
    rw [hkept, hdigits, List.cons_prefix_cons] at hprefix
    rw [← hdigits, hkept]
    refine ⟨first, rest, rfl, hprefix.1 ▸ hdigit, ?_⟩
    intro c hc
    apply Json.isDigit_of_mem_decimal (n := n)
    rw [hdigits, ← hprefix.1]
    exact List.cons_subset_cons _ hprefix.2.subset hc

end Binary64

namespace Json

open Reader

/-- Digits, as many as there are, but one at least. -/
def AreDigits (t : Text) : Prop := t ≠ [] ∧ ∀ c ∈ t, c.isDigit

/-- The parts of a number that is spelt with a fraction, with an exponent or with both. -/
structure DecimalParts (whole fraction exponent : Text) : Prop where
  digits : AreDigits whole
  noZero : whole.head? = some '0' → whole.length = 1
  point : fraction = [] ∨ ∃ digits, fraction = '.' :: digits ∧ AreDigits digits
  mark : exponent = [] ∨
    ∃ sign digits, exponent = 'e' :: sign :: digits ∧ (sign = '+' ∨ sign = '-') ∧ AreDigits digits
  noInteger : fraction ≠ [] ∨ exponent ≠ []

section Reading

variable {whole fraction exponent rest : Text}

theorem DecimalParts.endsDigits (h : DecimalParts whole fraction exponent)
    (hrest : EndsNumber rest) : EndsDigits (exponent ++ rest) := by
  rcases h.mark with rfl | ⟨sign, digits, rfl, -⟩
  · exact hrest.endsDigits
  · exact endsDigits_cons (by decide) _

theorem DecimalParts.fraction?_eq (h : DecimalParts whole fraction exponent)
    (hrest : EndsNumber rest) :
    fraction? (fraction ++ (exponent ++ rest)) = some (fraction, exponent ++ rest) := by
  have hends := h.endsDigits hrest
  rcases h.point with rfl | ⟨digits, rfl, hne, hdigits⟩
  · -- Neither an exponent nor what ends the number begins with a point.
    have hpoint : (exponent ++ rest).head? ≠ some '.' := by
      rcases h.mark with rfl | ⟨sign, digits, rfl, -⟩
      · intro hc
        exact (hrest '.' hc).2.1 rfl
      · simp
    cases hlist : exponent ++ rest with
    | nil => rfl
    | cons c later =>
      rw [hlist] at hpoint
      have hc : c ≠ '.' := by simpa using hpoint
      simp [fraction?, hc]
  · simp only [List.cons_append, fraction?, takeWhile_digits hdigits hends,
      dropWhile_digits hdigits hends, List.isEmpty_iff, if_neg hne]

theorem DecimalParts.exponent?_eq (h : DecimalParts whole fraction exponent)
    (hrest : EndsNumber rest) : exponent? (exponent ++ rest) = some (exponent, rest) := by
  rcases h.mark with rfl | ⟨sign, digits, rfl, hsign, hne, hdigits⟩
  · exact exponent?_of_ends hrest
  · have hread : exponentSign (sign :: (digits ++ rest)) = ([sign], digits ++ rest) := by
      rcases hsign with rfl | rfl <;> rfl
    simp only [List.cons_append, exponent?, true_or, if_true, hread,
      takeWhile_digits hdigits hrest.endsDigits, dropWhile_digits hdigits hrest.endsDigits,
      List.isEmpty_iff, if_neg hne, List.nil_append]

/-- A number is read from its parts, and spelt as they are. -/
theorem DecimalParts.magnitude?_eq (h : DecimalParts whole fraction exponent) (negative : Bool)
    (hrest : EndsNumber rest) :
    magnitude? negative (whole ++ fraction ++ exponent ++ rest) =
      some (.decimal ((if negative then ['-'] else []) ++ whole ++ fraction ++ exponent),
        rest) := by
  have hends : EndsDigits (fraction ++ (exponent ++ rest)) := by
    rcases h.point with rfl | ⟨digits, rfl, -⟩
    · exact h.endsDigits hrest
    · exact endsDigits_cons (by decide) _
  have hfew : (whole.isEmpty || (whole.head? = some '0' && whole.length ≠ 1)) = false := by
    have hne := h.digits.1
    have hzero := h.noZero
    simp only [Bool.or_eq_false_iff, List.isEmpty_eq_false_iff, Bool.and_eq_false_iff,
      decide_eq_false_iff_not, not_not]
    exact ⟨hne, Classical.or_iff_not_imp_left.mpr fun hhead => hzero (not_not.mp hhead)⟩
  have hdecimal : (fraction.isEmpty && exponent.isEmpty) = false := by
    simpa [Classical.or_iff_not_imp_left] using h.noInteger
  have htext : whole ++ fraction ++ exponent ++ rest =
      whole ++ (fraction ++ (exponent ++ rest)) := by simp
  rw [htext]
  simp only [magnitude?, takeWhile_digits h.digits.2 hends, dropWhile_digits h.digits.2 hends, hfew,
    h.fraction?_eq hrest, h.exponent?_eq hrest, Option.bind_eq_bind, Option.bind_some, hdecimal]
  rfl

end Reading

section Writing

variable {first : Char} {digits : Text}

theorem areDigits_decimal (n : Nat) : AreDigits (Text.decimal n) :=
  ⟨Nat.toDigits_ne_nil, fun _ hc => isDigit_of_mem_decimal hc⟩

theorem areDigits_zero : AreDigits ['0'] := by
  constructor
  · simp
  · intro c hc
    rw [List.mem_singleton.mp hc]
    decide

theorem areDigits_append {t other : Text} (ht : ∀ c ∈ t, c.isDigit) (h : AreDigits other) :
    AreDigits (t ++ other) := by
  refine ⟨by simp [h.1], ?_⟩
  intro c hc
  rcases List.mem_append.mp hc with hc | hc
  · exact ht c hc
  · exact h.2 c hc

theorem isDigit_of_mem_zeros {n : Nat} {c : Char} (h : c ∈ List.replicate n '0') : c.isDigit := by
  rw [List.eq_of_mem_replicate h]
  decide

/-- However digits are laid out, the text has the parts of a number. -/
theorem exists_layout_parts (hfirst : first ≠ '0') (hdigits : ∀ c ∈ first :: digits, c.isDigit)
    (leading : Int) :
    ∃ whole fraction exponent, DecimalParts whole fraction exponent ∧
      Binary64.layout (first :: digits) leading = whole ++ fraction ++ exponent := by
  have hall : AreDigits (first :: digits) := ⟨by simp, hdigits⟩
  rw [Binary64.layout.eq_def]
  split
  · split
    · -- Below one the digits stand behind a zero, a point and more zeros.
      refine ⟨['0'], '.' :: (List.replicate (-leading - 1).toNat '0' ++ first :: digits), [],
        ⟨areDigits_zero, fun _ => rfl, .inr ⟨_, rfl, ?_⟩, .inl rfl, .inl (by simp)⟩, by simp⟩
      exact areDigits_append (fun c hc => isDigit_of_mem_zeros hc) hall
    · -- From one on there are digits before the point and behind it.
      generalize hcount : leading.toNat + 1 = count
      have hwhole : AreDigits ((first :: digits).take count ++
          List.replicate (count - (first :: digits).length) '0') := by
        constructor
        · simp [← hcount]
        · intro c hc
          rcases List.mem_append.mp hc with hc | hc
          · exact hdigits c (List.take_subset _ _ hc)
          · exact isDigit_of_mem_zeros hc
      have hfraction : AreDigits (if ((first :: digits).drop count).isEmpty then ['0']
          else (first :: digits).drop count) := by
        split
        · exact areDigits_zero
        · next hne => exact ⟨by simpa using hne, fun c hc => hdigits c (List.drop_subset _ _ hc)⟩
      refine ⟨_, '.' :: _, [], ⟨hwhole, ?_, .inr ⟨_, rfl, hfraction⟩, .inl rfl, .inl (by simp)⟩,
        by simp⟩
      intro hzero
      rw [← hcount, List.take_succ_cons, List.cons_append, List.head?_cons] at hzero
      exact absurd (Option.some.inj hzero) hfirst
  · -- With an exponent one digit stands before the point.
    have hexponent : AreDigits (Text.padLeft '0' 2 (Text.decimal leading.natAbs)) :=
      areDigits_append (fun c hc => isDigit_of_mem_zeros hc) (areDigits_decimal _)
    have hsign : (if leading < 0 then '-' else '+') = '+' ∨
        (if leading < 0 then '-' else '+') = '-' := by split <;> simp
    have hone : AreDigits [first] := ⟨by simp, fun c hc => hdigits c (by simp_all)⟩
    cases digits with
    | nil =>
      exact ⟨[first], [], _, ⟨hone, fun _ => rfl, .inl rfl, .inr ⟨_, _, rfl, hsign, hexponent⟩,
        .inr (by simp)⟩, by simp⟩
    | cons second rest =>
      have hrest : AreDigits (second :: rest) :=
        ⟨by simp, fun c hc => hdigits c (List.mem_cons_of_mem _ hc)⟩
      exact ⟨[first], '.' :: second :: rest, _, ⟨hone, fun _ => rfl, .inr ⟨_, rfl, hrest⟩,
        .inr ⟨_, _, rfl, hsign, hexponent⟩, .inl (by simp)⟩, by simp⟩

theorem exists_floatText_parts (negative : Bool) (significand : Nat) (exponent : Int) :
    ∃ whole fraction mark, DecimalParts whole fraction mark ∧
      floatText (.finite negative significand exponent) =
        (if negative then ['-'] else []) ++ whole ++ fraction ++ mark := by
  change ∃ whole fraction mark, _ ∧ (if negative then ['-'] else []) ++ _ = _
  by_cases h : significand = 0
  · rw [if_pos h]
    refine ⟨['0'], ['.', '0'], [], ⟨areDigits_zero, fun _ => rfl,
      .inr ⟨['0'], rfl, areDigits_zero⟩, .inl rfl, .inl (by simp)⟩, by simp⟩
  · rw [if_neg h]
    obtain ⟨first, rest, hdigits, hfirst, hall⟩ :=
      Binary64.exists_dropZeros_decimal (Binary64.digits_shortest_pos h exponent)
    obtain ⟨whole, fraction, mark, hparts, hlayout⟩ := exists_layout_parts hfirst hall
      ((Binary64.shortest significand exponent).power +
        (Text.decimal (Binary64.shortest significand exponent).digits).length - 1)
    refine ⟨whole, fraction, mark, hparts, ?_⟩
    rw [← hdigits] at hlayout
    exact (congrArg _ hlayout).trans (by simp)

end Writing

/-- A finite number is read back, whatever follows it. -/
theorem readableFloat_of_isFinite {x : Binary64} (h : x.IsFinite) : ReadableFloat x := by
  cases x with
  | infinite negative => exact h.elim
  | notANumber => exact h.elim
  | finite negative significand exponent =>
    intro rest hrest
    obtain ⟨whole, fraction, mark, hparts, htext⟩ :=
      exists_floatText_parts negative significand exponent
    have hread := hparts.magnitude?_eq negative hrest
    rw [htext]
    cases negative with
    | true => exact hread
    | false =>
      -- Without a sign the text begins with a digit.
      obtain ⟨digit, digits, rfl⟩ := List.exists_cons_of_ne_nil hparts.digits.1
      have hdigit : digit ≠ '-' := by
        rintro rfl
        exact absurd (hparts.digits.2 '-' List.mem_cons_self) (by decide)
      rw [← hread]
      exact number?.eq_2 _ fun later h => hdigit (List.cons.inj h).1

/-- The words for what is no finite number begin no value. -/
theorem value?_floatText_none {x : Binary64} (h : ¬x.IsFinite) (fuel : Nat) (rest : Text) :
    value? fuel (floatText x ++ rest) = none := by
  cases fuel with
  | zero => rfl
  | succ fuel =>
    cases x with
    | finite negative significand exponent => exact absurd trivial h
    | notANumber => rfl
    | infinite negative => cases negative <;> rfl

theorem readableFloat_iff (x : Binary64) : ReadableFloat x ↔ x.IsFinite := by
  constructor
  · intro h
    by_contra hnot
    have hvalue := value?_of_number? (h [] endsNumber_nil) 0
    rw [value?_floatText_none hnot] at hvalue
    cases hvalue
  · exact readableFloat_of_isFinite

end Json

end HelpText
