import HelpText.Proofs.Json.Ascii
import HelpText.Toml.Reader
import Mathlib.Algebra.Group.Nat.Defs
import Mathlib.Data.List.TakeWhile

/-!
Documents that hold one text in one table. Each character of the text is written by its number, so
that no character is special. Main statement: whatever the text is, its document is read as that one
row.
-/

namespace HelpText

namespace Toml

open Settings (Value Rows)

/-- The last `count` hexadecimal digits of a number. -/
def hexDigits : (count : Nat) → Nat → Text
  | 0, _ => []
  | count + 1, n => hexDigits count (n / 16) ++ [(n % 16).digitChar]

/-- A character by its number. -/
def numbered (c : Char) : Text := '\\' :: 'U' :: hexDigits 8 c.toNat

def quoted (t : Text) : Text := '"' :: t.flatMap numbered ++ ['"']

/-- The document that gives `key` this text in `table`, and holds nothing else. -/
def document (table key t : Text) : Text := table ++ '.' :: (key ++ '=' :: quoted t)

/-- Needs no quotation marks as a part of a key. -/
def IsBare (part : Text) : Prop := part ≠ [] ∧ ∀ c ∈ part, isBareKeyChar c = true

instance (part : Text) : Decidable (IsBare part) :=
  decidable_of_iff ((!part.isEmpty && part.all isBareKeyChar) = true) (by simp [IsBare])

section Characters

theorem hexValue?_digitChar : ∀ n < 16, hexValue? n.digitChar = some n := by decide

/-- Digits that are read behind others put these `count` places up. -/
theorem foldl_hexDigits (count n m : Nat) :
    (hexDigits count n).foldl (fun n c => n.bind fun n => (hexValue? c).map (16 * n + ·)) (some m) =
      some (m * 16 ^ count + n % 16 ^ count) := by
  induction count generalizing n with
  | zero => simp [hexDigits, Nat.mod_one]
  | succ count ih =>
    have hdigit : hexValue? (n % 16).digitChar = some (n % 16) :=
      hexValue?_digitChar _ (Nat.mod_lt n (by decide))
    rw [hexDigits, List.foldl_append, ih]
    simp only [List.foldl_cons, List.foldl_nil, Option.bind_some, hdigit, Option.map_some,
      Option.some.injEq]
    rw [Nat.pow_succ', Nat.mod_mul, Nat.mul_add, Nat.mul_left_comm]
    omega

theorem scalar?_hexDigits (c : Char) : scalar? (hexDigits 8 c.toNat) = some c := by
  have hvalid : c.toNat < 0xd800 ∨ 0xdfff < c.toNat ∧ c.toNat < 0x110000 := c.valid
  have hsmall : c.toNat < 16 ^ 8 := by omega
  have hnumber := Char.ofNat_toNat c
  rw [Char.ofNat, dif_pos hvalid] at hnumber
  rw [scalar?, foldl_hexDigits, Nat.zero_mul, Nat.zero_add, Nat.mod_eq_of_lt hsmall]
  exact (dif_pos hvalid).trans (congrArg some hnumber)

theorem basicString_escape (a b c d e f g h : Char) (rest : Text) :
    basicString ('\\' :: 'U' :: a :: b :: c :: d :: e :: f :: g :: h :: rest) =
      match scalar? [a, b, c, d, e, f, g, h] with
      | some char => before char (basicString rest)
      | none => .error .malformed := by
  rw [basicString.eq_def]
  rfl

theorem basicString_numbered (c : Char) (rest : Text) :
    basicString (numbered c ++ rest) = before c (basicString rest) := by
  have hdigits := scalar?_hexDigits c
  simp only [numbered, hexDigits, List.nil_append, List.cons_append] at hdigits ⊢
  rw [basicString_escape, hdigits]

theorem basicString_text (t rest : Text) :
    basicString (t.flatMap numbered ++ '"' :: rest) = .ok (t, rest) := by
  induction t with
  | nil => rfl
  | cons c t ih =>
    rw [List.flatMap_cons, List.append_assoc, basicString_numbered, ih]
    rfl

theorem value_quoted (fuel : Nat) (t : Text) :
    value (fuel + 1) (quoted t) = .ok (.text t, []) := by
  -- Three quotation marks would open a text of several lines; no quoted text begins with them.
  have hread : value (fuel + 1) (quoted t) =
      (basicString (t.flatMap numbered ++ ['"'])).map
        fun reading => (.text reading.1, reading.2) := by
    cases t with
    | nil => rfl
    | cons c t =>
      rw [quoted, List.flatMap_cons, numbered, value.eq_def]
      rfl
  rw [hread, basicString_text]
  rfl

end Characters

section Keys

/-- A text that begins with a bare part does not begin with a character of another kind. -/
theorem bare_append_ne {part : Text} {c : Char} (hpart : IsBare part)
    (hc : isBareKeyChar c = false) (rest rest' : Text) : part ++ rest ≠ c :: rest' := by
  obtain ⟨hne, hbare⟩ := hpart
  obtain ⟨first, tail, rfl⟩ := List.exists_cons_of_ne_nil hne
  intro heq
  have hfirst := hbare first List.mem_cons_self
  rw [(List.cons.inj heq).1, hc] at hfirst
  exact Bool.false_ne_true hfirst

/-- A bare part of a key goes as far as bare characters go. -/
theorem keyPart_bare {part : Text} {stop : Char} (hpart : IsBare part)
    (hstop : isBareKeyChar stop = false) (rest : Text) :
    keyPart (part ++ stop :: rest) = .ok (part, stop :: rest) := by
  have htake : (part ++ stop :: rest).takeWhile isBareKeyChar = part := by
    rw [List.takeWhile_append_of_pos hpart.2, List.takeWhile_cons_of_neg (by simp [hstop]),
      List.append_nil]
  have hdrop : (part ++ stop :: rest).dropWhile isBareKeyChar = stop :: rest := by
    rw [List.dropWhile_append_of_pos hpart.2, List.dropWhile_cons_of_neg (by simp [hstop])]
  rw [keyPart.eq_def]
  split
  · next heq => exact absurd heq (bare_append_ne hpart rfl _ _)
  · next heq => exact absurd heq (bare_append_ne hpart rfl _ _)
  · have hempty : part.isEmpty = false := List.isEmpty_eq_false_iff.mpr hpart.1
    rw [htake, hdrop]
    exact if_neg (by simp [hempty])

/-- No spaces stand before a bare part. -/
theorem dropWhile_bare {part : Text} (hpart : IsBare part) (rest : Text) :
    (part ++ rest).dropWhile isSpace = part ++ rest := by
  have hspace (c : Char) (hc : isBareKeyChar c = true) : isSpace c ≠ true := by
    intro hspace
    rw [isSpace, Bool.or_eq_true, beq_iff_eq, beq_iff_eq] at hspace
    rcases hspace with rfl | rfl <;> cases hc
  obtain ⟨hne, hbare⟩ := hpart
  obtain ⟨c, tail, rfl⟩ := List.exists_cons_of_ne_nil hne
  exact List.dropWhile_cons_of_neg (hspace c (hbare c List.mem_cons_self))

theorem key_dotted {table word : Text} (htable : IsBare table) (hword : IsBare word)
    (rest : Text) :
    key (table ++ '.' :: (word ++ '=' :: rest)) = .ok ([table, word], '=' :: rest) := by
  obtain ⟨fuel, hfuel⟩ : ∃ fuel, (table ++ '.' :: (word ++ '=' :: rest)).length = fuel + 1 :=
    ⟨_, by rw [List.length_append, List.length_cons, ← Nat.add_assoc]⟩
  have hlast : keyFrom (fuel + 1) (word ++ '=' :: rest) = .ok ([word], '=' :: rest) := by
    rw [keyFrom, keyPart_bare hword rfl]
    rfl
  rw [key, hfuel, keyFrom, keyPart_bare htable rfl]
  show keyFrom (fuel + 1) ((word ++ '=' :: rest).dropWhile isSpace) >>= _ = _
  rw [dropWhile_bare hword, hlast]
  rfl

end Keys

section Ascii

theorem ascii_of_bare {part : Text} (hpart : IsBare part) : part.IsAscii := by
  intro c hc
  have hbare := hpart.2 c hc
  rw [isBareKeyChar, Bool.or_eq_true, Bool.or_eq_true, beq_iff_eq, beq_iff_eq] at hbare
  rcases hbare with (halphanum | rfl) | rfl
  · exact Text.printable_of_alphanum halphanum
  · decide
  · decide

theorem hexDigits_ascii (count n : Nat) : (hexDigits count n).IsAscii := by
  have hdigit : ∀ d < 16, Text.IsAscii [Nat.digitChar d] := by decide
  induction count generalizing n with
  | zero => exact List.forall_mem_nil _
  | succ count ih => exact (ih (n / 16)).append (hdigit _ (Nat.mod_lt n (by decide)))

theorem quoted_ascii (t : Text) : (quoted t).IsAscii := by
  have hnumbered (c : Char) : (numbered c).IsAscii :=
    .cons (by decide) (.cons (by decide) (hexDigits_ascii 8 c.toNat))
  exact .cons (by decide) (.append (.flatMap fun c _ => hnumbered c) (by decide))

theorem document_ascii {table word : Text} (htable : IsBare table) (hword : IsBare word)
    (t : Text) : (document table word t).IsAscii := by
  apply (ascii_of_bare htable).append
  apply Text.IsAscii.cons (by decide)
  apply (ascii_of_bare hword).append
  exact Text.IsAscii.cons (by decide) (quoted_ascii t)

end Ascii

section Documents

variable {table word : Text}

theorem pair_document (htable : IsBare table) (hword : IsBare word) (t : Text) :
    ∃ next : Reader, ({} : Reader).pair (document table word t) = .ok (next, []) ∧
      next.data = [(table, .table [(word, .text t)])] := by
  have hvalue (fuel : Nat) : value (2 * fuel + 2) ((quoted t).dropWhile isSpace) =
      .ok (.text t, []) := value_quoted (2 * fuel + 1) t
  refine ⟨{ data := [(table, .table [(word, .text t)])], opened := [[table]] }, ?_, rfl⟩
  rw [Reader.pair, document, key_dotted htable hword]
  show value _ ((quoted t).dropWhile isSpace) >>= _ = _
  rw [hvalue]
  rfl

theorem run_document (htable : IsBare table) (hword : IsBare word) (t : Text) (fuel : Nat) :
    Reader.run (fuel + 2) {} (document table word t) = .ok [(table, .table [(word, .text t)])] := by
  obtain ⟨next, hnext, hdata⟩ := pair_document htable hword t
  have hstart : (document table word t).dropWhile isSpace = document table word t :=
    dropWhile_bare htable _
  have hother {c : Char} {rest : Text} (hc : isBareKeyChar c = false) :
      document table word t ≠ c :: rest := bare_append_ne htable hc _ _
  -- As its first character is bare, the one statement is a pair: no header, comment or empty line.
  rw [Reader.run, hstart]
  split
  · next heq => exact absurd (List.append_eq_nil_iff.mp heq).1 htable.1
  · next heq => exact absurd heq (hother rfl)
  · next heq => exact absurd heq (hother rfl)
  · next heq => exact absurd heq (hother rfl)
  · next heq => exact absurd heq (hother rfl)
  · rw [hnext]
    show Reader.run (fuel + 1) next [] = _
    rw [Reader.run, ← hdata]
    rfl

theorem joinNewlines_of_not_mem {t : Text} (h : '\r' ∉ t) : joinNewlines t = t := by
  fun_induction joinNewlines t with
  | case1 rest ih => exact absurd List.mem_cons_self h
  | case2 c rest hnot ih => rw [ih fun hmem => h (List.mem_cons_of_mem _ hmem)]
  | case3 => rfl

/-- Whatever the text is, its document is read as the one row that holds it. -/
theorem read_document (htable : IsBare table) (hword : IsBare word) (t : Text) :
    read (document table word t) = .ok [(table, .table [(word, .text t)])] := by
  -- What is printable is no carriage return, so that no newline is joined.
  have hreturn : '\r' ∉ document table word t := by
    intro hmem
    exact absurd (document_ascii htable hword t _ hmem).1 (by decide)
  obtain ⟨fuel, hfuel⟩ : ∃ fuel, (document table word t).length = fuel + 1 :=
    ⟨_, by rw [document, List.length_append, List.length_cons, ← Nat.add_assoc]⟩
  rw [read, joinNewlines_of_not_mem hreturn, hfuel, run_document htable hword]

end Documents

end Toml

end HelpText
