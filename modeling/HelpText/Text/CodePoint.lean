import HelpText.Text.Quoted

/-!
Code points: characters, and the surrogates, which stand for halves of a character and belong in no
text. Main statement: the code point of a number is the one that has this number.
-/

namespace HelpText

/-- A code point: a character, or the surrogate so many places behind U+D800. -/
inductive CodePoint where
  | char (c : Char)
  | surrogate (offset : Fin 0x800)
  deriving DecidableEq, Repr

namespace CodePoint

def number : CodePoint → Nat
  | .char c => c.toNat
  | .surrogate offset => 0xd800 + offset

def ofNumber? (n : Nat) : Option CodePoint :=
  if n.isValidChar then some (.char (Char.ofNat n))
  else if h : 0xd800 ≤ n ∧ n < 0xe000 then some (.surrogate ⟨n - 0xd800, by omega⟩)
  else none

/-- A code point in a text: a surrogate is shown by its escape. -/
def shown : CodePoint → Text
  | .char c => [c]
  | .surrogate offset => ['\\', 'u'] ++ Text.hexadecimal 4 (0xd800 + offset)

theorem ofNumber?_number (p : CodePoint) : ofNumber? p.number = some p := by
  cases p with
  | char c =>
    have hc : c.toNat.isValidChar := c.valid
    simp [ofNumber?, number, hc, Char.ofNat_toNat]
  | surrogate offset =>
    have ho := offset.isLt
    have hv : ¬ (0xd800 + offset.val).isValidChar := by simp [Nat.isValidChar]; omega
    simp [ofNumber?, number, hv]
    omega

theorem number_of_ofNumber? {n : Nat} {p : CodePoint} (h : ofNumber? n = some p) :
    p.number = n := by
  unfold ofNumber? at h
  split at h
  · next hv =>
    cases h
    rw [number, Char.ofNat, dif_pos hv]
    rfl
  · split at h
    · next hs => cases h; simp [number]; omega
    · cases h

/-- The code point of a number is the one that has this number. -/
theorem ofNumber?_eq_some_iff {n : Nat} {p : CodePoint} :
    ofNumber? n = some p ↔ p.number = n :=
  ⟨number_of_ofNumber?, fun h => h ▸ ofNumber?_number p⟩

end CodePoint

/-- What may hold surrogates beside characters. -/
abbrev RawText := List CodePoint

namespace Text

def raw (t : Text) : RawText := t.map .char

/-- A text that shows these code points. -/
def ofRaw (t : RawText) : Text := t.flatMap CodePoint.shown

/-- A text shows its own code points as it is. -/
theorem ofRaw_raw (t : Text) : ofRaw t.raw = t := by
  induction t with
  | nil => rfl
  | cons c rest ih => simp_all [ofRaw, raw, CodePoint.shown]

end Text

end HelpText
