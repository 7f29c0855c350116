import HelpText.Proofs.Generation.Inputs
import HelpText.Proofs.Generation.Names
import HelpText.Proofs.Generation.Stages
import HelpText.Proofs.Generation.Target

/-!
What decides about the stages of a run, said of the file system alone: which files are processed,
whether all of them can be read, whether their names differ, what the license header is.
-/

namespace HelpText

namespace Generation

/-- The files that a run processes, in this order. -/
def Processed (settings : Settings) (fs : FileSystem) (paths : List Path) : Prop :=
  ∃ listing, fs.listFiles settings.source = .ok listing ∧
    paths = Source.select settings.extension settings.sort listing

/-- Every file that a run processes can be read, and these are the texts. -/
def Loaded (settings : Settings) (fs : FileSystem) (sources : List Source) : Prop :=
  Processed settings fs (sources.map Source.path) ∧
    ∀ source ∈ sources, fs.readText source.path = .ok source.content

/-- No two files give the same name, or that is allowed. -/
def NamesPass (settings : Settings) (sources : List Source) : Prop :=
  settings.strictNames = true →
    (sources.map fun source => Document.deriveName source.name).Nodup

/-- The names that several files give, with these files. -/
def sharedNames (settings : Settings) (sources : List Source) : List (Text × List Text) :=
  collisions ((sources.map (documentOf settings)).map Document.name) (sources.map Source.name)

theorem load_eq_ok_iff (settings : Settings) (fs : FileSystem) (sources : List Source) :
    Source.load fs settings.source settings.extension settings.sort = .ok sources ↔
      Loaded settings fs sources := by
  rw [Source.load, Source.discover, Loaded, Processed]
  cases hlisting : fs.listFiles settings.source with
  | error fault => simp
  | ok listing =>
    simp only [Source.readAll_eq_ok_iff, Except.ok.injEq, exists_eq_left']

/-- Loading stops where the directory cannot be listed, or at the first file that cannot be read. -/
theorem load_eq_error_iff (settings : Settings) (fs : FileSystem) (stop : Stop) :
    Source.load fs settings.source settings.extension settings.sort = .error stop ↔
      (∃ fault, fs.listFiles settings.source = .error fault ∧
        stop = .ofFault (.sourceDirectory settings.source) fault) ∨
      ∃ before path after fault, Processed settings fs (before ++ path :: after) ∧
        (∀ other ∈ before, ∃ text, fs.readText other = .ok text) ∧
        fs.readText path = .error fault ∧ stop = Source.stopOf path fault := by
  rw [Source.load, Source.discover]
  unfold Processed
  cases hlisting : fs.listFiles settings.source with
  | error fault => simp [eq_comm]
  | ok listing =>
    simp only [Source.readAll_eq_error_iff, reduceCtorEq, false_and, exists_false, false_or,
      Except.ok.injEq, exists_eq_left']
    constructor
    · rintro ⟨before, path, after, fault, hpaths, hrest⟩
      exact ⟨before, path, after, fault, hpaths.symm, hrest⟩
    · rintro ⟨before, path, after, fault, hpaths, hrest⟩
      exact ⟨before, path, after, fault, hpaths.symm, hrest⟩

theorem sharedNames_eq_nil_iff (settings : Settings) (sources : List Source) :
    sharedNames settings sources = [] ↔
      (sources.map fun source => Document.deriveName source.name).Nodup := by
  rw [sharedNames, collisions_eq_nil_iff _ _ (by simp), List.map_map]
  rfl

theorem namesPass_iff (settings : Settings) (sources : List Source) :
    NamesPass settings sources ↔
      (settings.strictNames && !(sharedNames settings sources).isEmpty) = false := by
  rw [NamesPass, ← sharedNames_eq_nil_iff settings]
  cases settings.strictNames <;> simp

/-- The names are looked at when everything is read, and the license only when they pass. -/
theorem inputs_of_loaded {settings : Settings} {fs : FileSystem} {sources : List Source}
    (h : Loaded settings fs sources) :
    (¬NamesPass settings sources → inputs settings fs =
        .error (.failure (.duplicateNames (sharedNames settings sources)))) ∧
      (NamesPass settings sources → inputs settings fs =
        (License.resolve fs settings.license).map
          fun license => (license, sources.map (documentOf settings))) := by
  have hload := (load_eq_ok_iff settings fs sources).mpr h
  rw [inputs, hload, namesPass_iff]
  change (_ → (if (settings.strictNames && !(sharedNames settings sources).isEmpty) = true then _
    else _) = _) ∧ (_ → (if (settings.strictNames && !(sharedNames settings sources).isEmpty) = true
      then _ else _) = _)
  constructor
  · intro hnames
    rw [if_pos (by simpa using hnames)]
    rfl
  · intro hnames
    rw [if_neg (by simp [hnames])]
    cases License.resolve fs settings.license <;> rfl

theorem inputs_of_load_error {settings : Settings} {fs : FileSystem} {stop : Stop}
    (h : Source.load fs settings.source settings.extension settings.sort = .error stop) :
    inputs settings fs = .error stop := by
  rw [inputs, h]

def targetOf (settings : Settings) : Path := settings.destination ++ Path.read settings.outputName

/-- The text of the generated file below this license header. -/
def textOf (settings : Settings) (license : Text) (sources : List Source) : Text :=
  sourceText settings license (sources.map (documentOf settings))

theorem work_of_inputs_error {settings : Settings} {fs : FileSystem} {stop : Stop}
    (h : inputs settings fs = .error stop) : work settings fs = (fs, .error stop) := by
  rw [work, h]

/-- With all that it reads, a run comes down to writing the file. -/
theorem work_of_gives {settings : Settings} {fs : FileSystem} {sources : List Source}
    {license : Text} (hload : Loaded settings fs sources) (hnames : NamesPass settings sources)
    (hlicense : License.Gives fs settings.license license) :
    work settings fs =
      match Output.write fs settings.destination settings.outputName Output.fileMode
        (textOf settings license sources) with
      | (written, .error stop) => (written, .error stop)
      | (written, .ok target) =>
        (written, .ok { documents := sources.map (documentOf settings), target }) := by
  obtain ⟨header, hresolve, rfl⟩ := (License.resolve_eq_ok_iff _ _ _).mpr hlicense
  have hinputs := (inputs_of_loaded hload).2 hnames
  rw [hresolve] at hinputs
  rw [work, hinputs]
  rfl

end Generation

end HelpText
