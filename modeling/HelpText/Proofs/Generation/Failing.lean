import HelpText.Proofs.FileSystem.Directories
import HelpText.Proofs.Generation.Verdict

/-!
What is left of writing that fails. Main statement: directories at most were made, and only on the
way to the generated file.
-/

namespace HelpText

open FileSystem (MadeAlong)

namespace Output

/-- Preparing a directory makes it with those above it, or changes nothing. -/
theorem prepare_files (fs : FileSystem) (directory : Path) :
    (prepare fs directory).1 = fs ∨
      (prepare fs directory).1 = (fs.makePath false directoryMode directory).1 := by
  rw [prepare]
  split
  · exact Or.inl rfl
  · exact Or.inl rfl
  · right
    split
    · next made hmake => rw [hmake]
    · next made fault hmake => rw [hmake]

theorem prepare_madeAlong (fs : FileSystem) (directory : Path) :
    MadeAlong fs (prepare fs directory).1 directory := by
  rcases prepare_files fs directory with hsame | hmade
  · rw [hsame]
    exact .refl fs directory
  · rw [hmade]
    exact FileSystem.makePath_madeAlong fs false directoryMode directory

/-- Opening the file is the last thing that can fail. -/
theorem put_of_error {fs : FileSystem} {target : Path} {mode : Nat} {text : Text} {stop : Stop}
    (h : (put fs target mode text).2 = .error stop) : (put fs target mode text).1 = fs := by
  rcases put_cases fs target mode text with ⟨stop, hput, -⟩ | ⟨place, location, -, -, hput⟩
  · rw [hput]
  · rw [hput] at h
    cases h

theorem write_of_error {fs : FileSystem} {directory : Path} {name : Text} {mode : Nat} {text : Text}
    {stop : Stop} (h : (write fs directory name mode text).2 = .error stop) :
    MadeAlong fs (write fs directory name mode text).1 directory := by
  have hprepare := prepare_madeAlong fs directory
  rw [write] at h ⊢
  split
  · next made hmade =>
    simp only [hmade] at h hprepare
    rw [put_of_error h]
    exact hprepare
  · next made stop' hmade =>
    rw [hmade] at hprepare
    exact hprepare

end Output

namespace Generation

/-- A file system in which only directories were made has the same files and links. -/
theorem entryAt_iff_of_madeAlong {fs after : FileSystem} {path : Path}
    (h : MadeAlong fs after path) {location : Location} {entry : Entry}
    (hentry : FileSystem.isDirectory entry = false) :
    after.entryAt location = some entry ↔ fs.entryAt location = some entry := by
  rcases h.entries location with hsame | ⟨hnone, mode, hmade, -⟩
  · rw [hsame]
  · rw [hnone, hmade]
    constructor
    · intro heq
      cases heq
      cases hentry
    · intro heq
      cases heq

end Generation

end HelpText
