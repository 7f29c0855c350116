import HelpText.CommandLine.Program
import HelpText.Proofs.Generation.Reports
import HelpText.Proofs.Generation.Steps
import HelpText.Proofs.Generation.Ways
import HelpText.Proofs.Log.Endurance

/-!
Runs that do not succeed, whatever takes their reports. Main statement: such a run leaves all files
and links as they were but those that its log writes to; directories were made only where the
generated file was to be written, and only on its way.
-/

namespace HelpText

namespace FileSystem

variable {touched : Location → Bool} {fs middle after : FileSystem} {path : Path}

/-- Apart from what is touched, the same files and links are there. -/
def KeepsFiles (touched : Location → Bool) (fs after : FileSystem) : Prop :=
  ∀ location entry, touched location = false → isDirectory entry = false →
    (after.entryAt location = some entry ↔ fs.entryAt location = some entry)

theorem KeepsFiles.trans (h : KeepsFiles touched fs middle) (h' : KeepsFiles touched middle after) :
    KeepsFiles touched fs after :=
  fun location entry htouched hentry =>
    (h' location entry htouched hentry).trans (h location entry htouched hentry)

theorem KeepsFiles.of_sameOutside (h : SameOutside touched fs after) :
    KeepsFiles touched fs after :=
  fun _ _ htouched _ => by rw [h.entryAt_eq htouched]

theorem KeepsFiles.of_madeAlong (h : MadeAlong fs after path) : KeepsFiles touched fs after :=
  fun _ _ _ hentry => Generation.entryAt_iff_of_madeAlong h hentry

/-- Directories were made along a path. Before that and behind it, touched locations at most have
changed. -/
def MadeBeside (touched : Location → Bool) (fs after : FileSystem) (path : Path) : Prop :=
  ∃ before made, SameOutside touched fs before ∧ MadeAlong before made path ∧
    SameOutside touched made after

theorem MadeBeside.of_sameOutside (h : SameOutside touched fs after) (path : Path) :
    MadeBeside touched fs after path :=
  ⟨after, after, h, .refl after path, .refl touched after⟩

theorem MadeBeside.trans (h : MadeBeside touched fs middle path)
    (h' : SameOutside touched middle after) : MadeBeside touched fs after path := by
  obtain ⟨before, made, hbefore, hmade, hbehind⟩ := h
  exact ⟨before, made, hbefore, hmade, hbehind.trans h'⟩

theorem MadeBeside.keepsFiles (h : MadeBeside touched fs after path) :
    KeepsFiles touched fs after := by
  obtain ⟨before, made, hbefore, hmade, hbehind⟩ := h
  have hfirst : KeepsFiles touched fs made :=
    (KeepsFiles.of_sameOutside hbefore).trans (.of_madeAlong hmade)
  exact hfirst.trans (.of_sameOutside hbehind)

/-- What differs in no location is the same. -/
theorem SameOutside.eq_of_nothing (h : SameOutside (fun _ => false) fs after) : after = fs := by
  obtain ⟨⟨hworking, hhome, hhomeOf, hplatform, hlisted⟩, hentries⟩ := h
  simp only [Table.keepKeys, Bool.not_false, List.filter_true] at hentries
  cases fs
  cases after
  simp only at hworking hhome hhomeOf hplatform hlisted hentries
  subst hworking hhome hhomeOf hplatform hlisted hentries
  rfl

end FileSystem

namespace Generation

open FileSystem (AddsNoLink Grows KeepsFiles MadeBeside SameOutside)

variable {σ : Type} {surroundings : Surroundings σ} {touched : Location → Bool} {Owns : σ → Prop}
  {settings : Settings} {s after : σ}

/-- What takes the reports changes touched locations at most, as long as `Owns` holds; and this goes
on to hold, also when directories and files are made beside it. -/
structure LogsWithin (surroundings : Surroundings σ) (touched : Location → Bool)
    (Owns : σ → Prop) : Prop where
  files : ∀ s files, surroundings.files (surroundings.withFiles s files) = files
  report : ∀ s event, Owns s → Owns (surroundings.report s event) ∧
    SameOutside touched (surroundings.files s) (surroundings.files (surroundings.report s event))
  withFiles : ∀ s files, Owns s → Grows (surroundings.files s) files →
    AddsNoLink (surroundings.files s) files → Owns (surroundings.withFiles s files)

/-- A journal writes to no file. -/
theorem logsWithin_journal : LogsWithin journal (fun _ => false) fun _ => True where
  files := fun _ _ => rfl
  report := fun s _ _ => ⟨trivial, .refl _ s.files⟩
  withFiles := fun _ _ _ _ _ => trivial

/-- A log writes within its scope. -/
theorem logsWithin_scope {scope : Log.Scope} (hendures : scope.Endures) :
    LogsWithin CommandLine.surroundings scope.touched
      fun s => ∃ now, Log.Service.Within scope now s where
  files := fun _ _ => rfl
  report := by
    rintro s event ⟨now, hwithin⟩
    have hreported := Log.Service.report_within hwithin CommandLine.programName event
    exact ⟨⟨now, hreported⟩,
      (scope.outside hwithin.keeps).symm.trans (scope.outside hreported.keeps)⟩
  withFiles := by
    rintro s files ⟨now, hwithin⟩ hgrows hlinks
    obtain ⟨next, hkeeps⟩ := hendures hwithin.keeps hgrows hlinks
    exact ⟨next, hkeeps, hwithin.owns⟩

section Steps

theorem LogsWithin.reported (hlog : LogsWithin surroundings touched Owns) (howns : Owns s)
    (h : Reported surroundings s after) :
    Owns after ∧ SameOutside touched (surroundings.files s) (surroundings.files after) := by
  apply h.invariant (I := fun later =>
    Owns later ∧ SameOutside touched (surroundings.files s) (surroundings.files later))
  · rintro later event ⟨hlater, hsame⟩
    obtain ⟨hnext, hstep⟩ := hlog.report later event hlater
    exact ⟨hnext, hsame.trans hstep⟩
  · exact ⟨howns, .refl _ _⟩

theorem LogsWithin.written (hlog : LogsWithin surroundings touched Owns) (howns : Owns s)
    {text : Text} {files : FileSystem} {result : Except Stop Path}
    (hwrite : Output.write (surroundings.files s) settings.destination settings.outputName
      Output.fileMode text = (files, result)) :
    Owns (surroundings.withFiles s files) := by
  have hgrows := Output.write_grows (surroundings.files s) settings.destination
    settings.outputName Output.fileMode text
  have hlinks := Output.write_addsNoLink (surroundings.files s) settings.destination
    settings.outputName Output.fileMode text
  rw [hwrite] at hgrows hlinks
  exact hlog.withFiles s files howns hgrows hlinks

/-- Where a run is stopped, directories at most have been made beside what its log did. -/
theorem LogsWithin.stopped (hlog : LogsWithin surroundings touched Owns) (howns : Owns s)
    {stop : Stop} (h : Stopped surroundings settings s stop after) :
    Owns after ∧ MadeBeside touched (surroundings.files s) (surroundings.files after)
      settings.destination := by
  cases h with
  | reading h =>
    obtain ⟨hafter, hsame⟩ := hlog.reported howns h
    exact ⟨hafter, .of_sameOutside hsame _⟩
  | @writing text before files hbefore hwrite =>
    obtain ⟨hbefore, hsame⟩ := hlog.reported howns hbefore
    have hmade := Output.write_of_error (congrArg Prod.snd hwrite)
    rw [hwrite] at hmade
    refine ⟨hlog.written hbefore hwrite, ?_⟩
    rw [hlog.files]
    exact ⟨_, files, hsame, hmade, .refl _ _⟩

theorem not_product_of_failed {result : Except Interruption Outcome} {failure : Failure}
    (h : result = .ok (.error failure)) (product : Product) : result ≠ .ok (.ok product) := by
  intro hproduct
  rw [h] at hproduct
  cases hproduct

/-- A run without a product was stopped, and has only reported since. -/
theorem run_stopped (h : ∀ product, (run surroundings settings s).1 ≠ .ok (.ok product)) :
    ∃ stop before, Stopped surroundings settings s stop before ∧
      Reported surroundings before (run surroundings settings s).2 ∧
      ∀ failure, (run surroundings settings s).1 = .ok (.error failure) →
        stop = .failure failure := by
  rcases conclude_cases (stages_endsWith surroundings settings s) with
    ⟨product, hproduct, -⟩ | ⟨failure, before, hstopped, hfailed⟩ |
      ⟨interruption, hstopped, hinterrupted⟩
  · exact absurd hproduct (h product)
  · refine ⟨.failure failure, before, hstopped, ?_, ?_⟩
    · rw [run, hfailed]
      exact (Reported.refl before).step _
    · intro other hother
      rw [run, hfailed] at hother
      cases hother
      rfl
  · refine ⟨.interruption interruption, _, hstopped, .refl _, ?_⟩
    intro other hother
    rw [run, hinterrupted] at hother
    cases hother

/-- A run that does not come to write has only reported. -/
theorem reported_of_gather {stop : Stop}
    (h : (gather surroundings settings settings.destination.text s).1 = .error stop) :
    Reported surroundings s (run surroundings settings s).2 := by
  have hgather := gather_endsWith surroundings settings settings.destination.text s
  rw [run, conclude, stages, bind_apply]
  generalize gather surroundings settings settings.destination.text s = step at h hgather ⊢
  cases hgather with
  | ok => cases h
  | error hreported =>
    cases h
    cases stop with
    | failure failure => exact hreported.step _
    | interruption interruption => exact hreported

/-- A failure that is not one of writing the generated file changes nothing but the log. -/
theorem LogsWithin.sameOutside_of_failed (hlog : LogsWithin surroundings touched Owns)
    (howns : Owns s) {failure : Failure}
    (h : (run surroundings settings s).1 = .ok (.error failure))
    (hother : ∀ target fault, failure ≠ .output target fault) :
    SameOutside touched (surroundings.files s)
      (surroundings.files (run surroundings settings s).2) := by
  obtain ⟨stop, before, hstopped, hbehind, hstop⟩ := run_stopped (not_product_of_failed h)
  obtain rfl := hstop failure h
  cases hstopped with
  | reading hreading =>
    obtain ⟨hbefore, hsame⟩ := hlog.reported howns hreading
    exact hsame.trans (hlog.reported hbefore hbehind).2
  | writing _ hwrite =>
    -- A failure that is met in writing is one of the generated file.
    obtain ⟨fault, rfl⟩ := Output.write_failure (congrArg Prod.snd hwrite)
    exact absurd rfl (hother _ fault)

end Steps

section Examples

open Log (Service logPath logSite sits_logSite)

/-- The way to the destination leads through a directory that is not there and then into a file. -/
def blockedSettings : Settings :=
  { strictSettings with destination := Path.read (.of "new/../L/x") }

def logged : Service :=
  ((Service.atFirst untroubled.files (.finite false 0 0)).configure CommandLine.programName
    { file := some logPath }).1

theorem sits_untroubled : logSite.Sits untroubled.files := sits_logSite (by decide)

theorem within_logged :
    Service.Within (logSite.scope untroubled.files sits_untroubled) untroubled.files logged := by
  have hfile : ({ file := some logPath } : Log.Configuration).file = some logPath := rfl
  obtain ⟨s, hconfigure, hwithin⟩ := Service.configure_site sits_untroubled (.finite false 0 0)
    CommandLine.programName hfile (by decide) (by decide +kernel) (by decide +kernel)
  rw [logged, hconfigure]
  exact hwithin

end Examples

end Generation

end HelpText
