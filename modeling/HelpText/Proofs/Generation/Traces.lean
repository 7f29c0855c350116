import HelpText.Proofs.FileSystem.Addition
import HelpText.Proofs.Generation.Failing

/-!
The traces of a run that succeeds. Main statement: beside the generated file there are new
directories at most, and writing the file once more changes nothing.
-/

namespace HelpText

namespace Output

open FileSystem (Place Appends MadeAlong OneFileMore)

/-- A file that is written stands where its path leads, with just this content and the permission
bits that belong there. -/
theorem put_of_ok {fs after : FileSystem} {target shown : Path} {mode : Nat} {text : Text}
    (h : put fs target mode text = (after, .ok shown)) :
    shown = target ∧ ∃ place location, fs.resolve true target = .ok place ∧
      place.Takes location ∧
      after = fs.put location (.file (Utf8.encode text) (bitsAt fs.platform mode place)) := by
  rcases put_cases fs target mode text with
    ⟨stop, hput, -⟩ | ⟨place, location, hplace, htakes, hput⟩
  · rw [hput] at h
    cases h
  · rw [hput] at h
    cases h
    exact ⟨rfl, place, location, hplace, htakes, rfl⟩

theorem prepare_appends (fs : FileSystem) (directory : Path) :
    Appends fs (prepare fs directory).1 := by
  rcases prepare_files fs directory with hsame | hmade
  · rw [hsame]
    exact .refl fs
  · rw [hmade]
    exact FileSystem.makePath_appends fs false directoryMode directory

/-- A run that writes its file adds that file and directories at most. Writing it once more changes
nothing. -/
theorem write_of_ok {fs after : FileSystem} {directory target : Path} {name : Text} {mode : Nat}
    {text : Text} (h : write fs directory name mode text = (after, .ok target)) :
    target = directory ++ Path.read name ∧
      ∃ location, OneFileMore fs after location ∧
        (∃ entry, after.resolve true target = .ok (.occupied location entry)) ∧
        (after.pathExists directory = .ok true →
          write after directory name mode text = (after, .ok target)) := by
  have hmade := prepare_madeAlong fs directory
  have happends := prepare_appends fs directory
  rw [write] at h
  split at h
  · next made hprepare =>
    rw [hprepare] at hmade happends
    obtain ⟨rfl, place, location, hplace, htakes, rfl⟩ := put_of_ok h
    generalize bitsAt made.platform mode place = bits
    obtain ⟨hroot, hstands⟩ := htakes.stands (FileSystem.isIn_of_resolve hplace)
    have hafter := FileSystem.resolve_put (Utf8.encode text) bits hplace htakes
    refine ⟨rfl, location, hmade.put_file happends hroot hstands, ⟨_, hafter⟩, fun hexists => ?_⟩
    have hagain := FileSystem.put_self hroot (FileSystem.isIn_of_resolve hafter)
    have hthere : (made.put location (.file (Utf8.encode text) bits)).pathExists
        (directory ++ Path.read name) = .ok true := by
      rw [FileSystem.pathExists, FileSystem.test, FileSystem.entry?, hafter]
    simp only [write, prepare, hexists, put, hthere, FileSystem.writeFile, hafter, hagain,
      ↓reduceIte]
  · cases h

/-- Whether it succeeds or not, a run makes no link. -/
theorem write_addsNoLink (fs : FileSystem) (directory : Path) (name : Text) (mode : Nat)
    (text : Text) : FileSystem.AddsNoLink fs (write fs directory name mode text).1 := by
  rcases hwrite : write fs directory name mode text with ⟨after, stop | target⟩
  · have hmade := write_of_error (congrArg Prod.snd hwrite)
    rw [hwrite] at hmade
    intro location target hlink
    exact (Generation.entryAt_iff_of_madeAlong hmade rfl).mp hlink
  · obtain ⟨-, location, hmore, -⟩ := write_of_ok hwrite
    exact hmore.addsNoLink

end Output

end HelpText
