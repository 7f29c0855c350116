import HelpText.Text.Utf8
import Mathlib.Tactic.SplitIfs

/-!
UTF-8 read back. `Spells` says which bytes stand for which character, by the number of bytes. Main
statement: bytes are decoded to a text exactly if they are its encoding, so that decoding loses
nothing and refuses everything else.
-/

namespace HelpText

namespace Utf8

theorem isContinuation_iff (b : UInt8) :
    isContinuation b = true ↔ 0x80 ≤ b.toNat ∧ b.toNat ≤ 0xbf := by
  simp [isContinuation, UInt8.le_iff_toNat_le]

/-- Behind four of the lead bytes only a part of the continuation bytes may follow. -/
theorem isSecond_iff (lead b : UInt8) :
    isSecond lead b = true ↔ (0x80 ≤ b.toNat ∧ b.toNat ≤ 0xbf) ∧
      (lead.toNat = 0xe0 → 0xa0 ≤ b.toNat) ∧ (lead.toNat = 0xf0 → 0x90 ≤ b.toNat) ∧
      (lead.toNat = 0xed → b.toNat ≤ 0x9f) ∧ (lead.toNat = 0xf4 → b.toNat ≤ 0x8f) := by
  have hlead (n : UInt8) : lead = n ↔ lead.toNat = n.toNat := UInt8.toNat_inj.symm
  rw [isSecond, Bool.and_eq_true, decide_eq_true_eq, decide_eq_true_eq, UInt8.le_iff_toNat_le,
    UInt8.le_iff_toNat_le]
  simp only [hlead, apply_ite UInt8.toNat, UInt8.reduceToNat]
  split_ifs <;> omega

/-- The bytes of a character: one below 0x80, or a lead byte that tells how many follow it. The
second byte is kept in a range where the number has no shorter form, is no surrogate and does not
lie beyond U+10FFFF. -/
inductive Spells : List UInt8 → Char → Prop
  | one {b : UInt8} (h : b.toNat < 0x80) : Spells [b] (Char.ofNat b.toNat)
  | two {b b₁ : UInt8} (hlow : 0xc2 ≤ b.toNat) (hhigh : b.toNat < 0xe0)
      (h₁ : isContinuation b₁ = true) :
      Spells [b, b₁] (Char.ofNat (b.toNat % 32 * 64 + payload b₁))
  | three {b b₁ b₂ : UInt8} (hlow : 0xe0 ≤ b.toNat) (hhigh : b.toNat < 0xf0)
      (h₁ : isSecond b b₁ = true) (h₂ : isContinuation b₂ = true) :
      Spells [b, b₁, b₂] (Char.ofNat ((b.toNat % 16 * 64 + payload b₁) * 64 + payload b₂))
  | four {b b₁ b₂ b₃ : UInt8} (hlow : 0xf0 ≤ b.toNat) (hhigh : b.toNat < 0xf5)
      (h₁ : isSecond b b₁ = true) (h₂ : isContinuation b₂ = true)
      (h₃ : isContinuation b₃ = true) :
      Spells [b, b₁, b₂, b₃]
        (Char.ofNat (((b.toNat % 8 * 64 + payload b₁) * 64 + payload b₂) * 64 + payload b₃))

section Characters

theorem ofNat_eq_byte {n : Nat} {b : UInt8} (h : n = b.toNat) : UInt8.ofNat n = b := by
  rw [h, UInt8.ofNat_toNat]

/-- The encoding of a character by its number. -/
theorem utf8EncodeChar_ofNat {n : Nat} (h : n.isValidChar) :
    String.utf8EncodeChar (Char.ofNat n) =
      if n ≤ 0x7f then [UInt8.ofNat n]
      else if n ≤ 0x7ff then [UInt8.ofNat (n / 64 % 32 + 0xc0), UInt8.ofNat (n % 64 + 0x80)]
      else if n ≤ 0xffff then
        [UInt8.ofNat (n / 4096 % 16 + 0xe0), UInt8.ofNat (n / 64 % 64 + 0x80),
          UInt8.ofNat (n % 64 + 0x80)]
      else
        [UInt8.ofNat (n / 262144 % 8 + 0xf0), UInt8.ofNat (n / 4096 % 64 + 0x80),
          UInt8.ofNat (n / 64 % 64 + 0x80), UInt8.ofNat (n % 64 + 0x80)] := by
  have hn : (Char.ofNat n).val.toNat = n := by
    rw [Char.ofNat, dif_pos h]
    rfl
  rw [String.utf8EncodeChar, hn]

/-- The bytes of a character are its encoding. -/
theorem Spells.eq_encoding {bytes : List UInt8} {c : Char} (h : Spells bytes c) :
    bytes = String.utf8EncodeChar c := by
  cases h with
  | one h =>
    rw [utf8EncodeChar_ofNat (Or.inl (by omega)), if_pos (by omega), ofNat_eq_byte rfl]
  | @two b b₁ hlow hhigh h₁ =>
    rw [isContinuation_iff] at h₁
    have hlead : (b.toNat % 32 * 64 + b₁.toNat % 64) / 64 % 32 + 0xc0 = b.toNat := by omega
    have hnext : (b.toNat % 32 * 64 + b₁.toNat % 64) % 64 + 0x80 = b₁.toNat := by omega
    rw [utf8EncodeChar_ofNat (by unfold Nat.isValidChar payload; omega)]
    unfold payload
    rw [if_neg (by omega), if_pos (by omega), ofNat_eq_byte hlead, ofNat_eq_byte hnext]
  | @three b b₁ b₂ hlow hhigh h₁ h₂ =>
    rw [isSecond_iff] at h₁
    rw [isContinuation_iff] at h₂
    rw [utf8EncodeChar_ofNat (by unfold Nat.isValidChar payload; omega)]
    unfold payload
    generalize hn : (b.toNat % 16 * 64 + b₁.toNat % 64) * 64 + b₂.toNat % 64 = n
    have hlead : n / 4096 % 16 + 0xe0 = b.toNat := by omega
    have hsecond : n / 64 % 64 + 0x80 = b₁.toNat := by omega
    have hlast : n % 64 + 0x80 = b₂.toNat := by omega
    rw [if_neg (by omega), if_neg (by omega), if_pos (by omega), ofNat_eq_byte hlead,
      ofNat_eq_byte hsecond, ofNat_eq_byte hlast]
  | @four b b₁ b₂ b₃ hlow hhigh h₁ h₂ h₃ =>
    rw [isSecond_iff] at h₁
    rw [isContinuation_iff] at h₂ h₃
    rw [utf8EncodeChar_ofNat (by unfold Nat.isValidChar payload; omega)]
    unfold payload
    generalize hn :
      ((b.toNat % 8 * 64 + b₁.toNat % 64) * 64 + b₂.toNat % 64) * 64 + b₃.toNat % 64 = n
    have hlead : n / 262144 % 8 + 0xf0 = b.toNat := by omega
    have hsecond : n / 4096 % 64 + 0x80 = b₁.toNat := by omega
    have hthird : n / 64 % 64 + 0x80 = b₂.toNat := by omega
    have hlast : n % 64 + 0x80 = b₃.toNat := by omega
    rw [if_neg (by omega), if_neg (by omega), if_neg (by omega), ofNat_eq_byte hlead,
      ofNat_eq_byte hsecond, ofNat_eq_byte hthird, ofNat_eq_byte hlast]

/-- Every character has its bytes. -/
theorem spells_encoding (c : Char) : Spells (String.utf8EncodeChar c) c := by
  generalize hn : c.toNat = n
  have hvalid : n < 55296 ∨ 57343 < n ∧ n < 1114112 := hn ▸ c.valid
  have hc : ∀ m, m = n → Char.ofNat m = c := by
    intro m hm
    rw [hm, ← hn, Char.ofNat_toNat]
  have hencoding : String.utf8EncodeChar c = String.utf8EncodeChar (Char.ofNat n) := by
    rw [hc n rfl]
  have hbyte : ∀ m, m < 256 → (UInt8.ofNat m).toNat = m := fun _ h => UInt8.toNat_ofNat_of_lt' h
  rw [hencoding, utf8EncodeChar_ofNat hvalid]
  split_ifs with h₁ h₂ h₃
  · have hone : (UInt8.ofNat n).toNat = n := hbyte _ (by omega)
    have hspells : Spells [UInt8.ofNat n] _ := .one (by omega)
    rwa [hc _ hone] at hspells
  · have hlead : (UInt8.ofNat (n / 64 % 32 + 0xc0)).toNat = n / 64 % 32 + 0xc0 :=
      hbyte _ (by omega)
    have hnext : (UInt8.ofNat (n % 64 + 0x80)).toNat = n % 64 + 0x80 := hbyte _ (by omega)
    have hspells : Spells [UInt8.ofNat (n / 64 % 32 + 0xc0), UInt8.ofNat (n % 64 + 0x80)] _ :=
      .two (by omega) (by omega) ((isContinuation_iff _).mpr (by omega))
    rwa [hc _ (by unfold payload; omega)] at hspells
  · have hlead : (UInt8.ofNat (n / 4096 % 16 + 0xe0)).toNat = n / 4096 % 16 + 0xe0 :=
      hbyte _ (by omega)
    have hsecond : (UInt8.ofNat (n / 64 % 64 + 0x80)).toNat = n / 64 % 64 + 0x80 :=
      hbyte _ (by omega)
    have hlast : (UInt8.ofNat (n % 64 + 0x80)).toNat = n % 64 + 0x80 := hbyte _ (by omega)
    have hspells : Spells [UInt8.ofNat (n / 4096 % 16 + 0xe0), UInt8.ofNat (n / 64 % 64 + 0x80),
        UInt8.ofNat (n % 64 + 0x80)] _ :=
      .three (by omega) (by omega) ((isSecond_iff _ _).mpr (by omega))
        ((isContinuation_iff _).mpr (by omega))
    rwa [hc _ (by unfold payload; omega)] at hspells
  · have hlead : (UInt8.ofNat (n / 262144 % 8 + 0xf0)).toNat = n / 262144 % 8 + 0xf0 :=
      hbyte _ (by omega)
    have hsecond : (UInt8.ofNat (n / 4096 % 64 + 0x80)).toNat = n / 4096 % 64 + 0x80 :=
      hbyte _ (by omega)
    have hthird : (UInt8.ofNat (n / 64 % 64 + 0x80)).toNat = n / 64 % 64 + 0x80 :=
      hbyte _ (by omega)
    have hlast : (UInt8.ofNat (n % 64 + 0x80)).toNat = n % 64 + 0x80 := hbyte _ (by omega)
    have hspells : Spells [UInt8.ofNat (n / 262144 % 8 + 0xf0),
        UInt8.ofNat (n / 4096 % 64 + 0x80), UInt8.ofNat (n / 64 % 64 + 0x80),
        UInt8.ofNat (n % 64 + 0x80)] _ :=
      .four (by omega) (by omega) ((isSecond_iff _ _).mpr (by omega))
        ((isContinuation_iff _).mpr (by omega)) ((isContinuation_iff _).mpr (by omega))
    rwa [hc _ (by unfold payload; omega)] at hspells

end Characters

section Decoding

variable {start : Nat} {bytes : List UInt8} {content : Text}

/-- Decoding takes the bytes of a character off and goes on behind them. -/
theorem Spells.decodeFrom_append {c : Char} (h : Spells bytes c) (start : Nat)
    (rest : List UInt8) :
    decodeFrom start (bytes ++ rest) =
      (decodeFrom (start + bytes.length) rest).map (c :: ·) := by
  cases h with
  | @one b h =>
    have hone : b < 0x80 := UInt8.lt_iff_toNat_lt.mpr h
    rw [List.singleton_append, decodeFrom.eq_def]
    simp only [hone, if_true, List.length_singleton]
  | @two b b₁ hlow hhigh h₁ =>
    have hlow₀ : ¬ b < 0x80 := by simp only [UInt8.lt_iff_toNat_lt, UInt8.reduceToNat]; omega
    have hlow₁ : ¬ b < 0xc2 := by simp only [UInt8.lt_iff_toNat_lt, UInt8.reduceToNat]; omega
    have htwo : b < 0xe0 := UInt8.lt_iff_toNat_lt.mpr hhigh
    rw [List.cons_append, List.singleton_append, decodeFrom.eq_def]
    simp only [hlow₀, hlow₁, htwo, h₁, if_true, if_false, List.length_cons, List.length_nil]
  | @three b b₁ b₂ hlow hhigh h₁ h₂ =>
    have hlow₀ : ¬ b < 0x80 := by simp only [UInt8.lt_iff_toNat_lt, UInt8.reduceToNat]; omega
    have hlow₁ : ¬ b < 0xc2 := by simp only [UInt8.lt_iff_toNat_lt, UInt8.reduceToNat]; omega
    have hlow₂ : ¬ b < 0xe0 := by simp only [UInt8.lt_iff_toNat_lt, UInt8.reduceToNat]; omega
    have hthree : b < 0xf0 := UInt8.lt_iff_toNat_lt.mpr hhigh
    rw [List.cons_append, List.cons_append, List.singleton_append, decodeFrom.eq_def]
    simp only [hlow₀, hlow₁, hlow₂, hthree, h₁, h₂, if_true, if_false, List.length_cons,
      List.length_nil]
  | @four b b₁ b₂ b₃ hlow hhigh h₁ h₂ h₃ =>
    have hlow₀ : ¬ b < 0x80 := by simp only [UInt8.lt_iff_toNat_lt, UInt8.reduceToNat]; omega
    have hlow₁ : ¬ b < 0xc2 := by simp only [UInt8.lt_iff_toNat_lt, UInt8.reduceToNat]; omega
    have hlow₂ : ¬ b < 0xe0 := by simp only [UInt8.lt_iff_toNat_lt, UInt8.reduceToNat]; omega
    have hlow₃ : ¬ b < 0xf0 := by simp only [UInt8.lt_iff_toNat_lt, UInt8.reduceToNat]; omega
    have hfour : b < 0xf5 := UInt8.lt_iff_toNat_lt.mpr hhigh
    rw [List.cons_append, List.cons_append, List.cons_append, List.singleton_append,
      decodeFrom.eq_def]
    simp only [hlow₀, hlow₁, hlow₂, hlow₃, hfour, h₁, h₂, h₃, if_true, if_false,
      List.length_cons, List.length_nil]

theorem encode_cons (c : Char) (t : Text) :
    encode (c :: t) = String.utf8EncodeChar c ++ encode t := List.flatMap_cons

/-- Nothing is lost on the way into bytes. -/
theorem decodeFrom_encode (start : Nat) (t : Text) : decodeFrom start (encode t) = .ok t := by
  induction t generalizing start with
  | nil => rfl
  | cons c rest ih =>
    rw [encode_cons, (spells_encoding c).decodeFrom_append, ih]
    rfl

theorem exists_of_map_cons {c : Char} {result : Except Fault Text}
    (h : result.map (c :: ·) = .ok content) :
    ∃ rest, result = .ok rest ∧ content = c :: rest := by
  cases result with
  | error fault => cases h
  | ok rest => exact ⟨rest, rfl, (Except.ok.inj h).symm⟩

/-- A character read off in front: if its bytes are followed by the encoding of the rest, all of it
is the encoding of the whole. -/
theorem Spells.append_eq_encode {first rest : List UInt8} {c : Char} {others : Text}
    (h : Spells first c) (hrest : rest = encode others) :
    first ++ rest = encode (c :: others) := by
  rw [encode_cons, ← h.eq_encoding, hrest]

/-- What decoding accepts is an encoding. The induction follows the bytes as decoding does: each way
that gives a text takes the bytes of one character off and goes on behind them. -/
theorem eq_encode_of_decodeFrom (h : decodeFrom start bytes = .ok content) :
    bytes = encode content := by
  fun_induction decodeFrom start bytes generalizing content
  case case1 =>
    rw [← Except.ok.inj h]
    rfl
  case case2 start b rest hone ih =>
    obtain ⟨others, hothers, rfl⟩ := exists_of_map_cons h
    have hbyte : b.toNat < 0x80 := UInt8.lt_iff_toNat_lt.mp hone
    exact (Spells.one hbyte).append_eq_encode (ih hothers)
  case case5 start b _ hlow hhigh b₁ rest h₁ ih =>
    obtain ⟨others, hothers, rfl⟩ := exists_of_map_cons h
    simp only [UInt8.lt_iff_toNat_lt, UInt8.reduceToNat, Nat.not_lt] at hlow hhigh
    exact (Spells.two hlow hhigh h₁).append_eq_encode (ih hothers)
  case case9 start b _ _ hlow hhigh b₁ h₁ b₂ rest h₂ ih =>
    obtain ⟨others, hothers, rfl⟩ := exists_of_map_cons h
    simp only [UInt8.lt_iff_toNat_lt, UInt8.reduceToNat, Nat.not_lt] at hlow hhigh
    exact (Spells.three hlow hhigh h₁ h₂).append_eq_encode (ih hothers)
  case case15 start b _ _ _ hlow hhigh b₁ h₁ b₂ h₂ b₃ rest h₃ ih =>
    obtain ⟨others, hothers, rfl⟩ := exists_of_map_cons h
    simp only [UInt8.lt_iff_toNat_lt, UInt8.reduceToNat, Nat.not_lt] at hlow hhigh
    exact (Spells.four hlow hhigh h₁ h₂ h₃).append_eq_encode (ih hothers)
  -- every other way ends in a fault
  all_goals cases h

/-- Decoding gives a text exactly for its encoding. -/
theorem decode_eq_ok_iff : decode bytes = .ok content ↔ bytes = encode content := by
  constructor
  · intro h
    exact eq_encode_of_decodeFrom h
  · intro h
    rw [h]
    exact decodeFrom_encode 0 content

theorem decode_encode (t : Text) : decode (encode t) = .ok t := decode_eq_ok_iff.mpr rfl

/-- What is no encoding of a text is refused. -/
theorem decode_eq_error_iff :
    (∃ fault, decode bytes = .error fault) ↔ ∀ content, bytes ≠ encode content := by
  constructor
  · rintro ⟨fault, h⟩ content hencoding
    rw [decode_eq_ok_iff.mpr hencoding] at h
    cases h
  · intro h
    cases hdecode : decode bytes with
    | error fault => exact ⟨fault, rfl⟩
    | ok content => exact absurd (decode_eq_ok_iff.mp hdecode) (h content)

end Decoding

end Utf8

end HelpText
