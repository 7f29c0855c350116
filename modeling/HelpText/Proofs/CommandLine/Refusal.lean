import HelpText.CommandLine.Invocation
import HelpText.Proofs.Settings.Interruption

/-!
How an invocation answers that has no usable settings: as one with unusable arguments, unless
loading was interrupted.
-/

namespace HelpText

namespace CommandLine

open Log (Service)
open Settings (Unforeseen withSettingsFile)

/-- Loading gives settings, or refuses them as unusable. -/
def Settles (result : Except Stop Settings) : Prop :=
  (∃ settings, result = .ok settings) ∨
    ∃ fault : Settings.Fault, result = .error (.failure (.settings fault))

theorem settles_load_iff {fs : FileSystem} {source destination : Path} {asked : Option Path}
    {base : Path} {overrides : Settings.Overrides} :
    Settles (Settings.load fs source destination asked base overrides) ↔
      ∀ interruption, ¬Unforeseen fs asked base overrides interruption := by
  constructor
  · intro hsettles interruption hunforeseen
    have hload : Settings.load fs source destination asked base overrides =
        .error (.interruption interruption) :=
      Settings.load_eq_interruption_iff.mpr hunforeseen
    rw [hload] at hsettles
    rcases hsettles with ⟨settings, h⟩ | ⟨fault, h⟩
    · cases h
    · cases h
  · intro hnone
    cases hload : Settings.load fs source destination asked base overrides with
    | ok settings => exact Or.inl ⟨settings, rfl⟩
    | error stop =>
      cases stop with
      | failure failure =>
        obtain ⟨fault, rfl⟩ := Settings.load_eq_failure hload
        exact Or.inr ⟨fault, rfl⟩
      | interruption interruption =>
        exact absurd (Settings.load_eq_interruption_iff.mp hload) (hnone interruption)

/-- The answer to arguments that are refused with this message. -/
def refusal (s : Service) (message : Text) : Response × Service :=
  ({ output := [], ending := .answered 2 },
    { s with
      standardError :=
        s.standardError ++ usageText ++ programName ++ .of ": error: " ++ message ++ ['\n'] })

/-- Where the arguments name a settings file, or none, the settings are loaded from there. -/
theorem loadSettings_eq {fs : FileSystem} {arguments : Arguments}
    (h : arguments.choices.settingsFile ≠ some none) :
    loadSettings fs arguments =
      Settings.load fs arguments.source (arguments.destination.getD { names := [] })
        (arguments.choices.settingsFile.bind id) (FileSystem.Location.path fs.working)
        arguments.choices.overrides := by
  rw [loadSettings]
  split
  · next hnone => exact absurd hnone h
  · rfl

theorem invoke_of_unusable {console : Console} {words : List Text} {arguments : Arguments}
    {s : Service} {fault : Settings.Fault} (hread : Arguments.read words = .ok arguments)
    (hload : loadSettings s.disk.files arguments = .error (.failure (.settings fault))) :
    invoke console words s = refusal s fault.message := by
  rw [invoke, hread]
  simp only [hload]
  rfl

/-- Loading gives settings or refuses them exactly where nothing unforeseen is met; what is met
interrupts it. Unusable settings are answered like unusable arguments: status 2, nothing on standard
output, the reason below the usage, and no file touched. -/
theorem settles_iff (fs : FileSystem) (source destination : Path) (asked : Option Path)
    (base : Path) (overrides : Settings.Overrides) :
    (∀ interruption,
      Settings.load fs source destination asked base overrides =
          .error (.interruption interruption) ↔
        Unforeseen fs asked base overrides interruption) ∧
    (Settles (Settings.load fs source destination asked base overrides) ↔
      ∀ interruption, ¬Unforeseen fs asked base overrides interruption) ∧
    ∀ (console : Console) (words : List Text) (arguments : Arguments) (s : Service),
      Arguments.read words = .ok arguments → arguments.choices.settingsFile ≠ some none →
      (∀ interruption,
        ¬Unforeseen s.disk.files (arguments.choices.settingsFile.bind id)
          (FileSystem.Location.path s.disk.files.working) arguments.choices.overrides
          interruption) →
      (∃ settings, loadSettings s.disk.files arguments = .ok settings) ∨
        ∃ fault : Settings.Fault,
          loadSettings s.disk.files arguments = .error (.failure (.settings fault)) ∧
          invoke console words s = refusal s fault.message := by
  refine ⟨fun _ => Settings.load_eq_interruption_iff, settles_load_iff, ?_⟩
  intro console words arguments s hread hfile hnone
  have hsettles : Settles (loadSettings s.disk.files arguments) := by
    rw [loadSettings_eq hfile]
    exact settles_load_iff.mpr hnone
  rcases hsettles with hsettings | ⟨fault, hload⟩
  · exact Or.inl hsettings
  · exact Or.inr ⟨fault, hload, invoke_of_unusable hread hload⟩

section Examples

def serviceOn (fs : FileSystem) : Service where
  disk := { files := fs }
  clock := .finite false 0 0

def missingWords : List Text := [.of "docs", .of "out", .of "--config=none.toml"]

def missingArguments : Arguments where
  source := { names := [.of "docs"] }
  destination := some { names := [.of "out"] }
  choices := { settingsFile := some (some { names := [.of "none.toml"] }) }

theorem settles_iff_missing :
    run missingWords (serviceOn (withSettingsFile [])) =
      refusal (serviceOn (withSettingsFile [])) (.of "Config file not found: none.toml") := by
  have hread : Arguments.read missingWords = .ok missingArguments := by decide +kernel
  have hload : loadSettings (withSettingsFile []) missingArguments =
      .error (.failure (.settings (.fileMissing { names := [.of "none.toml"] }))) := by
    decide +kernel
  obtain ⟨-, hsettles, hanswers⟩ := settles_iff (withSettingsFile []) missingArguments.source
    { names := [.of "out"] } (some { names := [.of "none.toml"] }) (FileSystem.Location.path []) {}
  -- The settings are refused, so that nothing unforeseen was met.
  have hnone := hsettles.mp (Or.inr ⟨_, (loadSettings_eq (by decide)).symm.trans hload⟩)
  have hanswer := hanswers consoleLine missingWords missingArguments
    (serviceOn (withSettingsFile [])) hread (by decide) hnone
  rcases hanswer with ⟨settings, h⟩ | ⟨fault, h, hrun⟩
  · cases hload.symm.trans h
  · cases hload.symm.trans h
    exact hrun

/-- A settings file that is no text is not refused: its bytes are decoded where only the system and
the reader of the document are expected to object. -/
theorem load_interrupted_of_undecodable :
    Settings.load (withSettingsFile [0xff]) { names := [.of "docs"] } { names := [.of "out"] } none
        { names := [] } {} =
      .error (.interruption (.encoding
        { reason := .invalidStart, start := 0, byte := 0xff, length := 1 })) ∧
    ¬∀ (fs : FileSystem) (source destination : Path) (asked : Option Path) (base : Path)
      (overrides : Settings.Overrides),
      Settles (Settings.load fs source destination asked base overrides) := by
  have hload : Settings.load (withSettingsFile [0xff]) { names := [.of "docs"] }
      { names := [.of "out"] } none { names := [] } {} =
      .error (.interruption (.encoding
        { reason := .invalidStart, start := 0, byte := 0xff, length := 1 })) := by
    decide +kernel
  refine ⟨hload, ?_⟩
  intro hall
  have hsettles := hall (withSettingsFile [0xff]) { names := [.of "docs"] }
    { names := [.of "out"] } none { names := [] } {}
  rw [hload] at hsettles
  rcases hsettles with ⟨settings, h⟩ | ⟨fault, h⟩
  · cases h
  · cases h

end Examples

end CommandLine

end HelpText
