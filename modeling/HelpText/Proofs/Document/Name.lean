import HelpText.Proofs.Document.Extension
import HelpText.Proofs.Text.Lines
import HelpText.Proofs.Text.Removal
import HelpText.Proofs.Text.Uppercase

/-!
The names of documents. Main statements: a file name made of words gives these words, each
capitalised, which is a name that other packages see if the first of them begins with a letter; and
a file name gives no name exactly if it holds nothing but hyphens and its extension.
-/

namespace HelpText

/-- An identifier that other packages see, as far as it is written in ASCII: a capital letter, then
letters, digits and underscores. No keyword begins with a capital. -/
def GoSource.isExported : Text → Bool
  | [] => false
  | c :: rest => c.isUpper && rest.all Text.isWordChar

namespace Document

open Text (isWordChar)

/-- A word with its first character in upper case. -/
def capitalize : Text → Text
  | [] => []
  | c :: rest => c.toUpper :: rest

/-- The name of a file: words between hyphens, and behind a dot the extension. -/
def wordsFilename (words : List Text) (extension : Text) : Text :=
  Text.join ['-'] words ++ '.' :: extension

section TitleCase

variable {previous : Char} {word : Text} {words : List Text}

theorem isSeparator_of_isWordChar {c : Char} (h : isWordChar c = true) :
    isSeparator c = false := by
  rw [isSeparator, if_pos (Text.toNat_lt_of_isWordChar h), ← isWordChar, h, Bool.not_true]

theorem titleCaseFrom_append (previous : Char) (first second : Text) :
    titleCaseFrom previous (first ++ second) =
      titleCaseFrom previous first ++ titleCaseFrom (first.getLastD previous) second := by
  induction first generalizing previous with
  | nil => rfl
  | cons c first ih =>
    rw [List.cons_append, titleCaseFrom, titleCaseFrom, ih, List.append_assoc, List.getLastD_cons]

/-- A hyphen stays one, whatever stands before it. -/
theorem titleCaseFrom_hyphen (previous : Char) (rest : Text) :
    titleCaseFrom previous ('-' :: rest) = '-' :: titleCaseFrom '-' rest := by
  have hupper : Text.upperChar '-' = ['-'] := rfl
  rw [titleCaseFrom, hupper, ite_self, List.singleton_append]

theorem titleCaseFrom_inside (hprevious : isSeparator previous = false)
    (hword : ∀ c ∈ word, isWordChar c = true) : titleCaseFrom previous word = word := by
  induction word generalizing previous with
  | nil => rfl
  | cons c word ih =>
    obtain ⟨hc, hword⟩ := List.forall_mem_cons.mp hword
    rw [titleCaseFrom, hprevious, ih (isSeparator_of_isWordChar hc) hword]
    rfl

theorem titleCaseFrom_word (hprevious : isSeparator previous = true)
    (hword : ∀ c ∈ word, isWordChar c = true) :
    titleCaseFrom previous word = capitalize word := by
  cases word with
  | nil => rfl
  | cons c word =>
    obtain ⟨hc, hword⟩ := List.forall_mem_cons.mp hword
    rw [titleCaseFrom, if_pos hprevious, Text.upperChar_of_ascii (Text.toNat_lt_of_isWordChar hc),
      titleCaseFrom_inside (isSeparator_of_isWordChar hc) hword, capitalize, List.singleton_append]

/-- Words between hyphens are capitalised one by one. -/
theorem titleCaseFrom_join (hprevious : isSeparator previous = true)
    (hwords : ∀ word ∈ words, ∀ c ∈ word, isWordChar c = true) :
    titleCaseFrom previous (Text.join ['-'] words) = Text.join ['-'] (words.map capitalize) := by
  induction words generalizing previous with
  | nil => rfl
  | cons word words ih =>
    obtain ⟨hword, hwords⟩ := List.forall_mem_cons.mp hwords
    cases words with
    | nil => exact titleCaseFrom_word hprevious hword
    | cons next more =>
      have hrest : titleCaseFrom '-' (Text.join ['-'] (next :: more)) =
          Text.join ['-'] ((next :: more).map capitalize) := ih (by decide) hwords
      rw [Text.join, List.append_assoc, List.singleton_append, titleCaseFrom_append,
        titleCaseFrom_word hprevious hword, titleCaseFrom_hyphen, hrest]
      simp [Text.join]

theorem isWordChar_of_mem_capitalize (hword : ∀ c ∈ word, isWordChar c = true) :
    ∀ c ∈ capitalize word, isWordChar c = true := by
  cases word with
  | nil => exact hword
  | cons c word =>
    obtain ⟨hc, hword⟩ := List.forall_mem_cons.mp hword
    exact List.forall_mem_cons.mpr ⟨Text.isWordChar_toUpper hc, hword⟩

theorem not_mem_of_isWordChar {t : Text} {c : Char} (hc : isWordChar c = false)
    (ht : ∀ c ∈ t, isWordChar c = true) : c ∉ t := by
  intro hmem
  rw [ht c hmem] at hc
  cases hc

theorem filter_hyphen_join {pieces : List Text} (h : ∀ piece ∈ pieces, '-' ∉ piece) :
    (Text.join ['-'] pieces).filter (· ≠ '-') = pieces.flatten := by
  have hkept {piece : Text} (hpiece : '-' ∉ piece) : piece.filter (· ≠ '-') = piece := by
    rw [List.filter_eq_self]
    rintro c hc
    rw [decide_eq_true_eq]
    rintro rfl
    exact hpiece hc
  induction pieces with
  | nil => rfl
  | cons piece pieces ih =>
    obtain ⟨hpiece, hpieces⟩ := List.forall_mem_cons.mp h
    cases pieces with
    | nil => rw [Text.join, hkept hpiece, List.flatten_singleton]
    | cons next more =>
      rw [Text.join, List.filter_append, List.filter_append, hkept hpiece, ih hpieces,
        List.flatten_cons]
      simp

end TitleCase

section Words

variable {words : List Text} {extension : Text}

/-- Of a file name made of words the words are left when the extension is taken out. -/
theorem removeAll_wordsFilename (hwords : ∀ word ∈ words, ∀ c ∈ word, isWordChar c = true)
    (hextension : '.' ∉ extension) :
    Text.removeAll (extensionOf (wordsFilename words extension)) (wordsFilename words extension) =
      Text.join ['-'] words := by
  have hdot : '.' ∉ Text.join ['-'] words := by
    rw [Text.mem_join_iff (by decide)]
    rintro ⟨word, hword, hmem⟩
    exact not_mem_of_isWordChar (by decide) (hwords word hword) hmem
  have hrest : Text.removeAll ('.' :: extension) ('.' :: extension) = [] := by
    have hpart := Text.removeAll_part_append '.' extension []
    rwa [List.append_nil, Text.removeAll_nil] at hpart
  rw [wordsFilename, extensionOf_append _ hextension, Text.removeAll_append_of_not_mem hdot, hrest,
    List.append_nil]

theorem deriveName_wordsFilename (hwords : ∀ word ∈ words, ∀ c ∈ word, isWordChar c = true)
    (hextension : '.' ∉ extension) :
    deriveName (wordsFilename words extension) = (words.map capitalize).flatten := by
  have hhyphen : ∀ piece ∈ words.map capitalize, '-' ∉ piece := by
    rw [List.forall_mem_map]
    intro word hword
    exact not_mem_of_isWordChar (by decide) (isWordChar_of_mem_capitalize (hwords word hword))
  rw [deriveName, removeAll_wordsFilename hwords hextension, titleCase,
    titleCaseFrom_join (by decide) hwords, filter_hyphen_join hhyphen]

theorem isWordChar_of_mem_flatten (hwords : ∀ word ∈ words, ∀ c ∈ word, isWordChar c = true) :
    ∀ c ∈ (words.map capitalize).flatten, isWordChar c = true := by
  intro c hc
  obtain ⟨piece, hpiece, hmem⟩ := List.mem_flatten.mp hc
  obtain ⟨word, hword, rfl⟩ := List.mem_map.mp hpiece
  exact isWordChar_of_mem_capitalize (hwords word hword) c hmem

/-- The name begins with the first word that is not empty. -/
theorem exists_flatten_capitalize {c : Char} {word : Text}
    (h : words.find? (!·.isEmpty) = some (c :: word)) :
    ∃ rest, (words.map capitalize).flatten = c.toUpper :: rest := by
  induction words with
  | nil => cases h
  | cons first words ih =>
    cases first with
    | nil => exact ih h
    | cons d first =>
      obtain ⟨rfl, rfl⟩ := List.cons.inj (Option.some.inj h)
      exact ⟨_, rfl⟩

/-- A file name made of words gives these words, each capitalised. If the first that is not empty
begins with a letter, whatever is built on the name is an identifier that other packages see. -/
theorem deriveName_words (hwords : ∀ word ∈ words, ∀ c ∈ word, isWordChar c = true)
    (hextension : '.' ∉ extension) :
    deriveName (wordsFilename words extension) = (words.map capitalize).flatten ∧
      (∀ c ∈ deriveName (wordsFilename words extension), isWordChar c = true) ∧
      ∀ c word, words.find? (!·.isEmpty) = some (c :: word) → c.isAlpha = true →
        ∀ more : Text, (∀ d ∈ more, isWordChar d = true) →
          GoSource.isExported (deriveName (wordsFilename words extension) ++ more) = true := by
  have hname := deriveName_wordsFilename hwords hextension
  have hchars := isWordChar_of_mem_flatten hwords
  rw [hname]
  refine ⟨rfl, hchars, ?_⟩
  intro c word hfirst hletter more hmore
  obtain ⟨rest, hrest⟩ := exists_flatten_capitalize hfirst
  rw [hrest] at hchars ⊢
  rw [List.cons_append, GoSource.isExported, Char.isUpper_toUpper_eq_isAlpha, hletter,
    Bool.true_and, List.all_append, Bool.and_eq_true, List.all_eq_true, List.all_eq_true]
  exact ⟨(List.forall_mem_cons.mp hchars).2, hmore⟩

/-- Empty words, a word of digits, and words with capitals and underscores inside. -/
def strangeWords : List Text := [[], .of "get", .of "2nd", [], .of "_x", .of "aPI_v2"]

theorem deriveName_words_strange :
    (∀ word ∈ strangeWords, ∀ c ∈ word, isWordChar c = true) ∧ '.' ∉ Text.of "md" ∧
      wordsFilename strangeWords (.of "md") = .of "-get-2nd--_x-aPI_v2.md" ∧
      deriveName (wordsFilename strangeWords (.of "md")) = .of "Get2nd_xAPI_v2" ∧
      GoSource.isExported (deriveName (wordsFilename strangeWords (.of "md")) ++ .of "Short") =
        true := by
  have hall : ∀ word ∈ strangeWords, word.all isWordChar = true := by decide
  have hwords : ∀ word ∈ strangeWords, ∀ c ∈ word, isWordChar c = true :=
    fun word hword => List.all_eq_true.mp (hall word hword)
  have hextension : '.' ∉ Text.of "md" := by decide
  obtain ⟨hname, -, hexported⟩ := deriveName_words hwords hextension
  refine ⟨hwords, hextension, by decide, ?_, ?_⟩
  · rw [hname]
    decide
  · exact hexported 'g' ['e', 't'] (by decide) (by decide) _ (List.all_eq_true.mp (by decide))

end Words

section Nameless

theorem titleCaseFrom_subset_hyphen_iff (previous : Char) (t : Text) :
    (∀ u ∈ titleCaseFrom previous t, u = '-') ↔ ∀ c ∈ t, c = '-' := by
  induction t generalizing previous with
  | nil => simp [titleCaseFrom]
  | cons c rest ih =>
    rw [titleCaseFrom, List.forall_mem_append, List.forall_mem_cons]
    refine and_congr ?_ (ih c)
    split
    · exact Text.upperChar_subset_hyphen_iff c
    · exact List.forall_mem_singleton

/-- A file gives no name exactly if its own holds nothing but hyphens and the extension. -/
theorem deriveName_eq_nil_iff {filename tail : Text} (h : extensionOf filename = '.' :: tail) :
    deriveName filename = [] ↔ Text.WrittenWith ['-'] ('.' :: tail) filename := by
  have hkept (t : Text) : t.filter (· ≠ '-') = [] ↔ ∀ c ∈ t, c = '-' := by
    simp [List.filter_eq_nil_iff]
  rw [deriveName, h, hkept, titleCase, titleCaseFrom_subset_hyphen_iff]
  exact Text.removeAll_eq_filler_iff (by decide) filename

end Nameless

end Document

end HelpText
