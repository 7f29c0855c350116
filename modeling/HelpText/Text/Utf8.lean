import HelpText.Text.Basic

/-!
Strict UTF-8. Decoding refuses at the first fault and says which bytes it covers; encoding is that
of the standard. Main statement: ASCII texts are encoded one byte per character.
-/

namespace HelpText

namespace Utf8

/-- Why some bytes are no character. -/
inductive Reason where
  | invalidStart
  | invalidContinuation
  | unexpectedEnd
  deriving DecidableEq, Repr

/-- The first fault of a byte sequence: where it begins, which byte stands there and how many bytes
it covers. -/
structure Fault where
  reason : Reason
  start : Nat
  byte : UInt8
  length : Nat
  deriving DecidableEq, Repr

def encode (t : Text) : List UInt8 := t.flatMap String.utf8EncodeChar

/-- A byte of the form 10xxxxxx. -/
def isContinuation (b : UInt8) : Bool := 0x80 ≤ b && b ≤ 0xbf

/-- The bytes that may follow a lead byte: a narrower range than all continuation bytes where these
would spell an overlong form, a surrogate or a number beyond U+10FFFF. -/
def isSecond (lead b : UInt8) : Bool :=
  (if lead = 0xe0 then 0xa0 else if lead = 0xf0 then 0x90 else 0x80) ≤ b &&
    b ≤ (if lead = 0xed then 0x9f else if lead = 0xf4 then 0x8f else 0xbf)

def payload (b : UInt8) : Nat := b.toNat % 64

def decodeFrom (start : Nat) : List UInt8 → Except Fault Text
  | [] => .ok []
  | b :: rest =>
    if b < 0x80 then
      (decodeFrom (start + 1) rest).map (Char.ofNat b.toNat :: ·)
    else if b < 0xc2 then .error ⟨.invalidStart, start, b, 1⟩
    else if b < 0xe0 then
      match rest with
      | [] => .error ⟨.unexpectedEnd, start, b, 1⟩
      | b₁ :: rest =>
        if isContinuation b₁ then
          (decodeFrom (start + 2) rest).map (Char.ofNat (b.toNat % 32 * 64 + payload b₁) :: ·)
        else .error ⟨.invalidContinuation, start, b, 1⟩
    else if b < 0xf0 then
      match rest with
      | [] => .error ⟨.unexpectedEnd, start, b, 1⟩
      | b₁ :: rest =>
        if isSecond b b₁ then
          match rest with
          | [] => .error ⟨.unexpectedEnd, start, b, 2⟩
          | b₂ :: rest =>
            if isContinuation b₂ then
              (decodeFrom (start + 3) rest).map
                (Char.ofNat ((b.toNat % 16 * 64 + payload b₁) * 64 + payload b₂) :: ·)
            else .error ⟨.invalidContinuation, start, b, 2⟩
        else .error ⟨.invalidContinuation, start, b, 1⟩
    else if b < 0xf5 then
      match rest with
      | [] => .error ⟨.unexpectedEnd, start, b, 1⟩
      | b₁ :: rest =>
        if isSecond b b₁ then
          match rest with
          | [] => .error ⟨.unexpectedEnd, start, b, 2⟩
          | b₂ :: rest =>
            if isContinuation b₂ then
              match rest with
              | [] => .error ⟨.unexpectedEnd, start, b, 3⟩
              | b₃ :: rest =>
                if isContinuation b₃ then
                  (decodeFrom (start + 4) rest).map
                    (Char.ofNat (((b.toNat % 8 * 64 + payload b₁) * 64 + payload b₂) * 64 +
                      payload b₃) :: ·)
                else .error ⟨.invalidContinuation, start, b, 3⟩
            else .error ⟨.invalidContinuation, start, b, 2⟩
        else .error ⟨.invalidContinuation, start, b, 1⟩
    else .error ⟨.invalidStart, start, b, 1⟩

def decode (bytes : List UInt8) : Except Fault Text := decodeFrom 0 bytes

/-- ASCII texts take one byte per character. -/
theorem length_encode_of_ascii {t : Text} (h : ∀ c ∈ t, c.toNat < 128) :
    (encode t).length = t.length := by
  induction t with
  | nil => rfl
  | cons c rest ih =>
    have hc : c.val ≤ 0x7f := by
      have := h c (by simp)
      exact UInt32.le_iff_toNat_le.mpr (Nat.le_of_lt_succ this)
    have ih := ih fun d hd => h d (by simp [hd])
    simp only [encode, List.flatMap_cons, List.length_append] at ih ⊢
    rw [ih]
    simp [Char.utf8Size, hc, Nat.add_comm]

def Reason.text : Reason → Text
  | .invalidStart => .of "invalid start byte"
  | .invalidContinuation => .of "invalid continuation byte"
  | .unexpectedEnd => .of "unexpected end of data"

def hexByte (b : UInt8) : Text := Text.padLeft '0' 2 (Nat.toDigits 16 b.toNat)

/-- A fault in words: the offending byte, or the offsets of the first and the last of several. -/
def Fault.text (f : Fault) : Text :=
  .of "'utf-8' codec can't decode " ++
    (if f.length = 1 then
      .of "byte 0x" ++ hexByte f.byte ++ .of " in position " ++ Text.decimal f.start
      else .of "bytes in position " ++ Text.decimal f.start ++ ['-'] ++
        Text.decimal (f.start + f.length - 1)) ++
    .of ": " ++ f.reason.text

end Utf8

end HelpText
