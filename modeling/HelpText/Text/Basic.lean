/-!
Texts as lists of characters, with the list operations the rest of the library is built from:
cutting at a separator, removing a part, trimming both ends. Main statement: joining the pieces of a
cut with its separator gives the text back.
-/

namespace HelpText

/-- A text is the list of its characters: functions on it recurse on the list and proofs follow
them. A lone surrogate, which stands for a byte that is not UTF-8 in a name, is no character: every
text can be encoded. -/
abbrev Text := List Char

instance : LawfulBEq Text := inferInstance

/-- `items` without the members at either end that satisfy `p`. -/
def trimBoth {α : Type} (p : α → Bool) (items : List α) : List α :=
  ((items.dropWhile p).reverse.dropWhile p).reverse

namespace Text

/-- The text of a string. -/
abbrev of (s : String) : Text := s.toList

def toString (t : Text) : String := String.ofList t

/-- The pieces between the occurrences of `separator`; a text without it is one piece. -/
def cut (separator : Char) : Text → List Text
  | [] => [[]]
  | c :: rest =>
    if c = separator then [] :: cut separator rest
    else match cut separator rest with
      | [] => [[c]]
      | piece :: pieces => (c :: piece) :: pieces

/-- A cut never comes out empty. -/
theorem cut_ne_nil (separator : Char) (t : Text) : cut separator t ≠ [] := by
  cases t with
  | nil => simp [cut]
  | cons c rest =>
    by_cases h : c = separator
    · simp [cut, h]
    · cases hr : cut separator rest <;> simp [cut, h, hr]

/-- Without the separator there is nothing to cut. -/
theorem cut_of_not_mem {separator : Char} {t : Text} (h : separator ∉ t) :
    cut separator t = [t] := by
  induction t with
  | nil => rfl
  | cons c rest ih =>
    have hc : c ≠ separator := fun hc => h (by simp [hc])
    rw [cut, if_neg hc, ih fun hm => h (List.mem_cons_of_mem _ hm)]

/-- Writes `pieces` one after the other with `separator` between neighbours. -/
def join (separator : Text) : List Text → Text
  | [] => []
  | [piece] => piece
  | piece :: next :: rest => piece ++ separator ++ join separator (next :: rest)

theorem join_cons_of_ne_nil (separator piece : Text) {pieces : List Text} (h : pieces ≠ []) :
    join separator (piece :: pieces) = piece ++ separator ++ join separator pieces := by
  cases pieces with
  | nil => exact absurd rfl h
  | cons next rest => rfl

theorem join_cons_cons (separator : Text) (c : Char) (piece : Text) (pieces : List Text) :
    join separator ((c :: piece) :: pieces) = c :: join separator (piece :: pieces) := by
  cases pieces <;> simp [join]

/-- Joining undoes cutting. -/
theorem join_cut (separator : Char) (t : Text) : join [separator] (cut separator t) = t := by
  induction t with
  | nil => rfl
  | cons c rest ih =>
    by_cases h : c = separator
    · rw [cut, if_pos h, join_cons_of_ne_nil _ _ (cut_ne_nil separator rest), ih]
      simp [h]
    · rw [cut, if_neg h]
      cases hr : cut separator rest with
      | nil => exact absurd hr (cut_ne_nil separator rest)
      | cons piece pieces => rw [hr] at ih; simp only [join_cons_cons, ih]

/-- `t` without the occurrences of `part`, found from left to right and never overlapping; `skip`
counts the characters of an occurrence still to be passed over. -/
def removeFrom (part : Text) : Nat → Text → Text
  | _, [] => []
  | skip + 1, _ :: rest => removeFrom part skip rest
  | 0, c :: rest =>
    if part.isPrefixOf (c :: rest) then removeFrom part (part.length - 1) rest
    else c :: removeFrom part 0 rest

/-- `t` without the occurrences of `part`; nothing is removed for an empty `part`. -/
def removeAll (part t : Text) : Text :=
  if part.isEmpty then t else removeFrom part 0 t

def decimal (n : Nat) : Text := Nat.toDigits 10 n

/-- The decimal digits of `n` behind a minus sign where one is due. -/
def decimalInt : Int → Text
  | .ofNat n => decimal n
  | .negSucc n => '-' :: decimal (n + 1)

/-- `t` behind as many copies of `filler` as bring it to `width`. -/
def padLeft (filler : Char) (width : Nat) (t : Text) : Text :=
  List.replicate (width - t.length) filler ++ t

/-- Whether the code point of `c` lies in one of these runs, given by their ends. -/
def isWithin (ranges : List (Nat × Nat)) (c : Char) : Bool :=
  ranges.any fun range => range.1 ≤ c.toNat && c.toNat ≤ range.2

end Text

end HelpText
