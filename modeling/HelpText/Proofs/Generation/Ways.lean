import HelpText.Proofs.FileSystem.Outside
import HelpText.Proofs.Generation.Traces

/-!
The ways of a run: the paths that it follows. Main statement: in a file system that is other in
places that no way of the run meets, the run reads the same and writes alike.
-/

namespace HelpText

open FileSystem (SameOutside Clear entryPath MovesWith Grows)

namespace Source

variable {touched : Location → Bool} {fs other : FileSystem} {directory : Path}

/-- The same documents are read where neither the directory nor its entries are touched. -/
theorem load_outside (h : SameOutside touched fs other) (extension : Text) (sort : Bool)
    (hclear : Clear touched fs directory)
    (hentries : ∀ location entry, fs.resolve true directory = .ok (.occupied location entry) →
      (∀ other, touched other = true → other.dropLast ≠ location) ∧
        ∀ name ∈ fs.namesIn location, Clear touched fs (entryPath directory name)) :
    load other directory extension sort = load fs directory extension sort := by
  rw [load, load, discover, discover, h.listFiles_eq hclear hentries]
  cases hlisting : fs.listFiles directory with
  | error fault => rfl
  | ok listing =>
    obtain ⟨location, mode, hsource, -, rfl⟩ := (FileSystem.listFiles_eq_ok_iff _ _ _).mp hlisting
    refine readAll_congr fun path hpath => ?_
    obtain ⟨name, hname, rfl⟩ := List.mem_map.mp ((mem_select _ _ _ _).mp hpath).1
    exact h.readText_eq ((hentries location _ hsource).2 name (List.mem_filter.mp hname).1)

end Source

theorem License.resolve_outside {touched : Location → Bool} {fs other : FileSystem}
    (h : SameOutside touched fs other) {choice : Option Text}
    (hclear : ∀ asked file, License.asked choice = some asked → fs.expandHome asked = .ok file →
      Clear touched fs file) : resolve other choice = resolve fs choice := by
  rw [resolve_eq, resolve_eq]
  cases hasked : License.asked choice with
  | none => rfl
  | some path =>
    simp only [h.expandHome]
    cases hfile : fs.expandHome path with
    | error fault => rfl
    | ok file => simp only [License.read, h.readText_eq (hclear path file hasked hfile)]

namespace Output

variable {touched : Location → Bool} {start fs other after : FileSystem} {directory target : Path}

theorem prepare_with (h : MovesWith touched start fs other)
    (hclear : ∀ beginning, beginning <+: directory.names →
      Clear touched after ⟨directory.root, beginning⟩)
    (hafter : Grows (prepare fs directory).1 after) :
    (prepare other directory).2 = (prepare fs directory).2 ∧
      MovesWith touched start (prepare fs directory).1 (prepare other directory).1 := by
  have hgrows := (prepare_madeAlong fs directory).grows.trans hafter
  have hdirectory : Clear touched fs directory := (hclear _ (List.prefix_refl _)).of_grows hgrows
  have hexists : other.pathExists directory = fs.pathExists directory := h.test_eq hdirectory _
  have hmade := h.makePath false directoryMode hclear
  rw [prepare] at hafter
  rw [prepare, prepare, hexists]
  generalize fs.pathExists directory = found at hafter ⊢
  rcases found with fault | _ | _
  · exact ⟨rfl, h⟩
  · generalize fs.makePath false directoryMode directory = step at hmade hafter ⊢
    generalize other.makePath false directoryMode directory = step' at hmade ⊢
    obtain ⟨made, fault⟩ := step
    obtain ⟨made', fault'⟩ := step'
    have hgrows : Grows made after := by cases fault <;> exact hafter
    obtain ⟨rfl, hmoved⟩ : fault' = fault ∧ MovesWith touched start made made' := hmade hgrows
    cases fault' with
    | none => exact ⟨rfl, hmoved⟩
    | some fault => exact ⟨rfl, hmoved⟩
  · exact ⟨rfl, h⟩

theorem put_grows (fs : FileSystem) (target : Path) (mode : Nat) (text : Text) :
    Grows fs (put fs target mode text).1 := by
  rcases hput : put fs target mode text with ⟨after, stop | shown⟩
  · have hsame := put_of_error (congrArg Prod.snd hput)
    rw [hput] at hsame
    obtain rfl : after = fs := hsame
    exact .refl after
  · obtain ⟨-, place, location, hplace, htakes, rfl⟩ := put_of_ok hput
    exact .put_taken (htakes.stands (FileSystem.isIn_of_resolve hplace)).2

theorem put_with (h : MovesWith touched start fs other) {mode : Nat} {text : Text}
    (hclear : Clear touched after target) (hafter : Grows (put fs target mode text).1 after) :
    (put other target mode text).2 = (put fs target mode text).2 ∧
      MovesWith touched start (put fs target mode text).1 (put other target mode text).1 := by
  have htarget : Clear touched fs target := hclear.of_grows ((put_grows _ _ _ _).trans hafter)
  cases hwrite : fs.writeFile target (Utf8.encode text) with
  | error fault =>
    have hexists : other.pathExists target = fs.pathExists target := h.test_eq htarget _
    have hother := h.writeFile htarget (Utf8.encode text)
    rw [hwrite] at hother
    rw [put, put, hexists]
    cases fs.pathExists target with
    | error _ => exact ⟨rfl, h⟩
    | ok existed =>
      generalize other.writeFile target (Utf8.encode text) = result at hother ⊢
      cases hother
      simp only [hwrite]
      exact ⟨trivial, h⟩
  | ok written =>
    -- The file stands in the same place in both, with the same permission bits.
    obtain ⟨place, location, -, hplace, htakes, -⟩ := FileSystem.writeFile_eq_ok hwrite
    have hother := (h.resolve_eq htarget true).trans hplace
    have hlocation := htarget place.location (FileSystem.location_mem_pathTrail hplace)
    rw [htakes.location_eq] at hlocation
    rw [put_eq_of_takes mode text hplace htakes, put_eq_of_takes mode text hother htakes,
      h.platform]
    exact ⟨rfl, h.put hlocation _⟩

theorem write_grows (fs : FileSystem) (directory : Path) (name : Text) (mode : Nat) (text : Text) :
    Grows fs (write fs directory name mode text).1 := by
  have hprepared := (prepare_madeAlong fs directory).grows
  rw [write]
  split
  · next made hmade =>
    rw [hmade] at hprepared
    exact hprepared.trans (put_grows _ _ _ _)
  · next made stop hmade =>
    rw [hmade] at hprepared
    exact hprepared

/-- The file is written with the same result where no way to it meets what is other. -/
theorem write_with (h : MovesWith touched start fs other) {name : Text} {mode : Nat} {text : Text}
    (hclear : ∀ beginning, beginning <+: directory.names →
      Clear touched after ⟨directory.root, beginning⟩)
    (htarget : Clear touched after (directory ++ Path.read name))
    (hafter : Grows (write fs directory name mode text).1 after) :
    (write other directory name mode text).2 = (write fs directory name mode text).2 ∧
      MovesWith touched start (write fs directory name mode text).1
        (write other directory name mode text).1 := by
  have hprepare := prepare_with h hclear
  rw [write] at hafter
  rw [write, write]
  generalize prepare fs directory = step at hprepare hafter ⊢
  generalize prepare other directory = step' at hprepare ⊢
  obtain ⟨made, stop | _⟩ := step
  · obtain ⟨made', result⟩ := step'
    obtain ⟨rfl, hmoved⟩ := hprepare hafter
    exact ⟨rfl, hmoved⟩
  · obtain ⟨made', result⟩ := step'
    obtain ⟨rfl, hmoved⟩ := hprepare ((put_grows _ _ _ _).trans hafter)
    exact put_with hmoved htarget hafter

end Output

end HelpText
