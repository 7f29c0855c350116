import HelpText.Path
import HelpText.Proofs.Text.Lines

/-!
Paths in normal form. Main statement: read from the normal form of a rooted text, a path is rooted
and has no name `..`.
-/

namespace HelpText

namespace Path

/-- A name that leads down: it names something, and does not lead up. -/
def Descends (name : Text) : Prop := isName name = true ∧ name ≠ ['.', '.']

instance (name : Text) : Decidable (Descends name) :=
  inferInstanceAs (Decidable (isName name = true ∧ name ≠ ['.', '.']))

theorem rootOf_cases (t : Text) : rootOf t = [] ∨ rootOf t = ['/'] ∨ rootOf t = ['/', '/'] := by
  rw [rootOf.eq_def]
  split
  · exact Or.inl rfl
  · exact Or.inr (Or.inr rfl)
  · exact Or.inr (Or.inl rfl)

theorem rootOf_of_slash (t : Text) : rootOf ('/' :: t) ≠ [] := by
  rw [rootOf.eq_def]
  split
  · next hlength => simp at hlength
  · simp
  · simp

/-- In a rooted text every piece that is kept leads down. -/
theorem pushPiece_descends {kept : List Text} {piece : Text}
    (hkept : ∀ name ∈ kept, Descends name ∧ '/' ∉ name) (hpiece : '/' ∉ piece) :
    ∀ name ∈ pushPiece true kept piece, Descends name ∧ '/' ∉ name := by
  rw [pushPiece.eq_def]
  split
  · exact hkept
  · next hname =>
    split
    · next hup =>
      intro name hin
      rcases List.mem_cons.mp hin with rfl | hin
      · exact ⟨⟨by simpa using hname, hup⟩, hpiece⟩
      · exact hkept name hin
    · cases kept with
      | nil => simp
      | cons last rest =>
        -- The name before it is never `..` itself.
        have hlast : last ≠ ['.', '.'] := (hkept last List.mem_cons_self).1.2
        simp only [if_neg hlast]
        exact fun name hin => hkept name (List.mem_cons_of_mem _ hin)

theorem normalNames_descend {t : Text} (hroot : rootOf t ≠ []) :
    ∀ name ∈ normalNames t, Descends name ∧ '/' ∉ name := by
  have hrooted : (rootOf t != []) = true := by simpa using hroot
  have hfold (pieces kept : List Text) (hpieces : ∀ piece ∈ pieces, '/' ∉ piece)
      (hkept : ∀ name ∈ kept, Descends name ∧ '/' ∉ name) :
      ∀ name ∈ pieces.foldl (pushPiece true) kept, Descends name ∧ '/' ∉ name := by
    induction pieces generalizing kept with
    | nil => exact hkept
    | cons piece rest ih =>
      refine ih _ (fun other hin => hpieces other (List.mem_cons_of_mem _ hin)) ?_
      exact pushPiece_descends hkept (hpieces piece List.mem_cons_self)
  intro name hin
  rw [normalNames, hrooted, List.mem_reverse] at hin
  have hpieces : ∀ piece ∈ Text.cut '/' t, '/' ∉ piece := Text.not_mem_of_mem_cut '/' t
  exact hfold _ [] hpieces (by simp) name hin

/-- The names of a path that is read from a normal text are those of the normal form. -/
theorem read_normalText_descends {t : Text} (hroot : rootOf t ≠ []) :
    (read (normalText t)).root ≠ [] ∧ ∀ name ∈ (read (normalText t)).names, Descends name := by
  have hnames := normalNames_descend hroot
  have htext : normalText t = rootOf t ++ Text.join ['/'] (normalNames t) := by
    rw [normalText]
    exact if_neg fun h => hroot (List.append_eq_nil_iff.mp h).1
  have hcut : ∀ piece ∈ Text.cut '/' (Text.join ['/'] (normalNames t)),
      piece = [] ∨ piece ∈ normalNames t := by
    cases hnil : normalNames t with
    | nil => simp [Text.join, Text.cut]
    | cons first rest =>
      rw [← hnil, Text.cut_join (by rw [hnil]; exact List.cons_ne_nil _ _)
        fun name hin => (hnames name hin).2]
      exact fun piece hin => Or.inr hin
  have hdescends (pieces : List Text) (hpieces : ∀ piece ∈ pieces, piece = [] ∨
      piece ∈ normalNames t) : ∀ name ∈ pieces.filter isName, Descends name := by
    intro name hin
    obtain ⟨hmem, hname⟩ := List.mem_filter.mp hin
    rcases hpieces name hmem with rfl | hnormal
    · cases hname
    · exact (hnames name hnormal).1
  rw [htext]
  rcases rootOf_cases t with hnil | hone | htwo
  · exact absurd hnil hroot
  · rw [hone]
    refine ⟨rootOf_of_slash _, hdescends _ fun piece hin => ?_⟩
    rcases List.mem_cons.mp hin with rfl | hin
    · exact Or.inl rfl
    · exact hcut piece hin
  · rw [htwo]
    refine ⟨rootOf_of_slash _, hdescends _ fun piece hin => ?_⟩
    rcases List.mem_cons.mp hin with rfl | hin
    · exact Or.inl rfl
    · rcases List.mem_cons.mp hin with rfl | hin
      · exact Or.inl rfl
      · exact hcut piece hin

end Path

end HelpText
