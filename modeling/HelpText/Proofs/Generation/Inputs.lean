import HelpText.License
import HelpText.Proofs.FileSystem.Faults
import HelpText.Source
import Mathlib.Data.List.Forall2

/-!
What a run reads: the documents and the license header. Main statements: files are read in order up
to the first that cannot be read, and a file is read for the license header exactly if the setting
asks for one.
-/

namespace HelpText

namespace Source

theorem read_eq_ok_iff (fs : FileSystem) (path : Path) (source : Source) :
    read fs path = .ok source ↔ source.path = path ∧ fs.readText path = .ok source.content := by
  rw [read]
  cases htext : fs.readText path with
  | ok content =>
    cases source
    simp only [Except.ok.injEq, mk.injEq]
    constructor
    · rintro ⟨rfl, rfl⟩
      exact ⟨rfl, rfl⟩
    · rintro ⟨rfl, rfl⟩
      exact ⟨rfl, rfl⟩
  | error fault => cases fault <;> simp

/-- Why reading a file stops a run. -/
def stopOf (path : Path) : FileSystem.ReadFault → Stop
  | .access fault => .ofFault (.sourceFile path) fault
  | .encoding fault => .failure (.sourceText path fault)

theorem read_eq_error_iff (fs : FileSystem) (path : Path) (stop : Stop) :
    read fs path = .error stop ↔
      ∃ fault, fs.readText path = .error fault ∧ stop = stopOf path fault := by
  rw [read]
  cases htext : fs.readText path with
  | ok content => simp
  | error fault => cases fault <;> simp [stopOf, eq_comm]

theorem readAll_eq_ok_iff_forall₂ (fs : FileSystem) (paths : List Path) (sources : List Source) :
    readAll fs paths = .ok sources ↔
      List.Forall₂ (fun path source => read fs path = .ok source) paths sources := by
  induction paths generalizing sources with
  | nil => cases sources <;> simp [readAll]
  | cons path paths ih =>
    rw [readAll]
    cases hread : read fs path with
    | error stop => simp [List.forall₂_cons_left_iff, hread]
    | ok first =>
      simp only [List.forall₂_cons_left_iff, hread, ← ih, Except.ok.injEq]
      cases readAll fs paths with
      | error stop => simp [Except.map]
      | ok rest => simp [Except.map, eq_comm]

theorem readAll_eq_ok_iff (fs : FileSystem) (paths : List Path) (sources : List Source) :
    readAll fs paths = .ok sources ↔
      sources.map Source.path = paths ∧
        ∀ source ∈ sources, fs.readText source.path = .ok source.content := by
  rw [readAll_eq_ok_iff_forall₂]
  simp only [read_eq_ok_iff]
  constructor
  · intro h
    induction h with
    | nil => simp
    | cons hfirst _ ih =>
      obtain ⟨rfl, htext⟩ := hfirst
      exact ⟨by rw [List.map_cons, ih.1], List.forall_mem_cons.mpr ⟨htext, ih.2⟩⟩
  · rintro ⟨rfl, h⟩
    rw [List.forall₂_map_left_iff, List.forall₂_same]
    exact fun source hsource => ⟨rfl, h source hsource⟩

/-- Reading stops at the first file that cannot be read. -/
theorem readAll_eq_error_iff (fs : FileSystem) (paths : List Path) (stop : Stop) :
    readAll fs paths = .error stop ↔
      ∃ before path after fault, paths = before ++ path :: after ∧
        (∀ other ∈ before, ∃ text, fs.readText other = .ok text) ∧
        fs.readText path = .error fault ∧ stop = stopOf path fault := by
  induction paths with
  | nil => simp [readAll]
  | cons path paths ih =>
    rw [readAll]
    cases hread : read fs path with
    | error other =>
      obtain ⟨fault, hfault, rfl⟩ := (read_eq_error_iff fs path other).mp hread
      constructor
      · intro h
        cases h
        exact ⟨[], path, paths, fault, rfl, by simp, hfault, rfl⟩
      · rintro ⟨before, found, after, shown, hpaths, hbefore, hshown, rfl⟩
        cases before with
        | nil =>
          obtain ⟨rfl, rfl⟩ := List.cons.inj hpaths
          rw [hfault] at hshown
          cases hshown
          rfl
        | cons first before =>
          obtain ⟨rfl, rfl⟩ := List.cons.inj hpaths
          obtain ⟨text, htext⟩ := hbefore path (List.mem_cons_self ..)
          rw [hfault] at htext
          cases htext
    | ok source =>
      have htext := ((read_eq_ok_iff fs path source).mp hread).2
      have hmap : (readAll fs paths).map (source :: ·) = .error stop ↔
          readAll fs paths = .error stop := by
        cases readAll fs paths <;> simp [Except.map]
      rw [hmap, ih]
      constructor
      · rintro ⟨before, found, after, fault, rfl, hbefore, hfault, rfl⟩
        refine ⟨path :: before, found, after, fault, rfl, ?_, hfault, rfl⟩
        exact List.forall_mem_cons.mpr ⟨⟨_, htext⟩, hbefore⟩
      · rintro ⟨before, found, after, fault, hpaths, hbefore, hfault, rfl⟩
        cases before with
        | nil =>
          obtain ⟨rfl, rfl⟩ := List.cons.inj hpaths
          rw [htext] at hfault
          cases hfault
        | cons first before =>
          obtain ⟨rfl, rfl⟩ := List.cons.inj hpaths
          exact ⟨before, found, after, fault, rfl, (List.forall_mem_cons.mp hbefore).2, hfault, rfl⟩

theorem readAll_congr {fs other : FileSystem} {paths : List Path}
    (h : ∀ path ∈ paths, other.readText path = fs.readText path) :
    readAll other paths = readAll fs paths := by
  induction paths with
  | nil => rfl
  | cons path paths ih =>
    obtain ⟨hpath, hrest⟩ := List.forall_mem_cons.mp h
    rw [readAll, readAll, read, read, hpath, ih hrest]

end Source

namespace License

/-- The file that a setting asks for, as it is spelt there. -/
def asked : Option Text → Option Path
  | none | some [] => none
  | some choice => if choice = noneWord then none else some (Path.read choice)

/-- The header of a setting that asks for no file. -/
def fixed (choice : Option Text) : License :=
  if choice = some noneWord then { text := [], origin := noneWord } else builtIn

theorem resolve_eq (fs : FileSystem) (choice : Option Text) :
    resolve fs choice =
      match asked choice with
      | none => .ok (fixed choice)
      | some path =>
        match fs.expandHome path with
        | .ok file => read fs file
        | .error fault => .error (.interruption (.path fault)) := by
  rcases choice with _ | _ | ⟨c, rest⟩
  · rfl
  · rfl
  · by_cases hword : c :: rest = noneWord
    · simp only [resolve, asked, fixed, hword, ↓reduceIte]
    · have hasked : asked (some (c :: rest)) = some (Path.read (c :: rest)) := if_neg hword
      rw [hasked]
      exact if_neg hword

/-- The text of the header that a setting asks for. -/
inductive Gives (fs : FileSystem) (choice : Option Text) : Text → Prop
  | fixed (h : asked choice = none) : Gives fs choice (fixed choice).text
  | file {path file : Path} {text : Text} (hasked : asked choice = some path)
      (hfile : fs.expandHome path = .ok file) (htext : fs.readText file = .ok text) :
      Gives fs choice text

theorem resolve_eq_ok_iff (fs : FileSystem) (choice : Option Text) (text : Text) :
    (∃ license, resolve fs choice = .ok license ∧ license.text = text) ↔ Gives fs choice text := by
  rw [resolve_eq]
  constructor
  · rintro ⟨license, hlicense, rfl⟩
    cases hasked : asked choice with
    | none =>
      rw [hasked] at hlicense
      cases hlicense
      exact .fixed hasked
    | some path =>
      cases hfile : fs.expandHome path with
      | error fault => simp [hasked, hfile] at hlicense
      | ok file =>
        simp only [hasked, hfile, read] at hlicense
        split at hlicense
        · next text htext =>
          cases hlicense
          exact .file hasked hfile htext
        · cases hlicense
        · cases hlicense
  · intro h
    cases h with
    | fixed hasked => exact ⟨fixed choice, by rw [hasked], rfl⟩
    | @file path file text hasked hfile htext =>
      refine ⟨{ text, origin := file.text }, ?_, rfl⟩
      simp only [hasked, hfile, read, htext]

/-- Why reading a license header stops a run. -/
def stopOf (path : Path) : FileSystem.ReadFault → Stop
  | .access fault => .ofFault (fun fault => .license path (.access fault)) fault
  | .encoding fault => .failure (.license path (.encoding fault))

/-- Only a setting that asks for a file can fail: its home is unknown, or it cannot be read. -/
theorem resolve_eq_error_iff (fs : FileSystem) (choice : Option Text) (stop : Stop) :
    resolve fs choice = .error stop ↔
      ∃ path, asked choice = some path ∧
        ((∃ fault, fs.expandHome path = .error fault ∧ stop = .interruption (.path fault)) ∨
          ∃ file fault, fs.expandHome path = .ok file ∧ fs.readText file = .error fault ∧
            stop = stopOf file fault) := by
  rw [resolve_eq]
  cases hasked : asked choice with
  | none => simp
  | some path =>
    cases hfile : fs.expandHome path with
    | error fault => simp [eq_comm, hfile]
    | ok file =>
      cases htext : fs.readText file with
      | ok text => simp [read, hfile, htext]
      | error fault => cases fault <;> simp [read, hfile, htext, stopOf, eq_comm]

end License

end HelpText
