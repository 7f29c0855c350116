import HelpText.Proofs.FileSystem.NormalPath

/-!
Path texts. Main statements: a text is its own last name exactly if it holds no slash and is not the
word for the directory itself, and a path is read back from its text.
-/

namespace HelpText

namespace Path

theorem isName_iff (piece : Text) : isName piece = true ↔ piece ≠ [] ∧ piece ≠ ['.'] := by
  simp [isName]

/-- The names of a path that was read name something and hold no slash. -/
theorem of_mem_names_read {t name : Text} (h : name ∈ (read t).names) :
    isName name = true ∧ '/' ∉ name := by
  obtain ⟨hcut, hname⟩ := List.mem_filter.mp h
  exact ⟨hname, Text.not_mem_of_mem_cut '/' t name hcut⟩

/-- Behind its root a path text begins with another character. -/
theorem rootOf_append {root rest : Text} (hroot : root = [] ∨ root = ['/'] ∨ root = ['/', '/'])
    (hrest : rest.head? ≠ some '/') : rootOf (root ++ rest) = root := by
  have hnone : rest.takeWhile (· = '/') = [] := by
    cases rest with
    | nil => rfl
    | cons c rest =>
      have hc : c ≠ '/' := by simpa using hrest
      rw [List.takeWhile_cons_of_neg (by simpa using hc)]
  rcases hroot with rfl | rfl | rfl <;> simp [rootOf, hnone]

theorem read_of_bare {name : Text} (hslash : '/' ∉ name) (hname : isName name = true) :
    read name = { names := [name] } := by
  have hhead : name.head? ≠ some '/' := fun h => hslash (List.mem_of_head? h)
  have hroot : rootOf name = [] := rootOf_append (Or.inl rfl) hhead
  rw [read, hroot, Text.cut_of_not_mem hslash, List.filter_cons_of_pos hname, List.filter_nil]

/-- The last name of a path is the whole text only if the text is one name. -/
theorem name_read_eq_self_iff {t : Text} (hne : t ≠ []) :
    (read t).name = t ↔ '/' ∉ t ∧ t ≠ ['.'] := by
  constructor
  · intro h
    have hnames : (read t).names ≠ [] := by
      intro hnil
      rw [name, hnil] at h
      exact hne h.symm
    have hlast : (read t).name = (read t).names.getLast hnames := by
      rw [name, List.getLastD_eq_getLast?, List.getLast?_eq_getLast_of_ne_nil hnames]
      rfl
    have hmem : t ∈ (read t).names := by
      have hin := List.getLast_mem hnames
      rwa [← hlast, h] at hin
    obtain ⟨hname, hslash⟩ := of_mem_names_read hmem
    exact ⟨hslash, ((isName_iff t).mp hname).2⟩
  · rintro ⟨hslash, hdot⟩
    rw [read_of_bare hslash ((isName_iff t).mpr ⟨hne, hdot⟩)]
    rfl

/-- Reading takes the names apart that the text of a path puts together. -/
theorem read_root_join {root : Text} {names : List Text}
    (hroot : root = [] ∨ root = ['/'] ∨ root = ['/', '/']) (hne : names ≠ [])
    (hnames : ∀ name ∈ names, isName name = true ∧ '/' ∉ name) :
    read (root ++ Text.join ['/'] names) = { root, names } := by
  have hcut : Text.cut '/' (Text.join ['/'] names) = names :=
    Text.cut_join hne fun name hin => (hnames name hin).2
  have hkept : names.filter isName = names :=
    List.filter_eq_self.mpr fun name hin => (hnames name hin).1
  have hhead : (Text.join ['/'] names).head? ≠ some '/' := by
    intro h
    obtain ⟨rest, hrest⟩ := List.head?_eq_some_iff.mp h
    -- A slash in front would make the first name empty.
    have hempty : [] ∈ names := by
      rw [← hcut, hrest, Text.cut, if_pos rfl]
      exact List.mem_cons_self
    exact absurd (hnames [] hempty).1 (by decide)
  rw [read, rootOf_append hroot hhead]
  rcases hroot with rfl | rfl | rfl
  · rw [List.nil_append, hcut, hkept]
  · rw [List.singleton_append, Text.cut, if_pos rfl, hcut, List.filter_cons_of_neg (by decide),
      hkept]
  · rw [List.cons_append, List.singleton_append, Text.cut, if_pos rfl, Text.cut, if_pos rfl, hcut,
      List.filter_cons_of_neg (by decide), List.filter_cons_of_neg (by decide), hkept]

/-- A path that was read is read again from its text. -/
theorem read_text (t : Text) : read (read t).text = read t := by
  have hroot : (read t).root = [] ∨ (read t).root = ['/'] ∨ (read t).root = ['/', '/'] :=
    rootOf_cases t
  have hnames : ∀ name ∈ (read t).names, isName name = true ∧ '/' ∉ name :=
    fun name hin => of_mem_names_read hin
  generalize read t = path at hroot hnames
  obtain ⟨root, names⟩ := path
  dsimp only at hroot hnames
  by_cases hne : names = []
  · subst hne
    rcases hroot with rfl | rfl | rfl <;> decide
  · rw [text, if_neg (fun h => hne h.2), read_root_join hroot hne hnames]

end Path

end HelpText
