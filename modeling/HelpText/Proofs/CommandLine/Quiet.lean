import HelpText.CommandLine.Program
import HelpText.Proofs.Generation.Correspondence
import HelpText.Proofs.Generation.Ways
import HelpText.Proofs.Log.Reports
import Mathlib.Data.List.Infix

/-!
Invocations beside their log. Main statement: where no way of a run meets what its log touches, the
run ends as it does without one, and leaves the same behind apart from the log.
-/

namespace HelpText

namespace CommandLine

open FileSystem (Clear SameOutside entryPath placesOf mem_placesOf_iff Grows MovesWith)
open Generation (Corresponds Journal Product Outcome ReadsAlike Stage TakesReports WritesAlike
  journal targetOf)
open Log (Scope Service)
open Log.Service (Within)

/-- The stages of an invocation, on a journal. -/
def quietStages (arguments : Arguments) (settings : Settings) : Stage Journal Product := do
  match arguments.destination with
  | some _ => Generation.stages journal settings
  | none =>
    let _ ← Generation.gather journal settings missingText
    throw (.interruption (.missingPath .destination))

/-- What an invocation does without a log. -/
def quietly (arguments : Arguments) (settings : Settings) (fs : FileSystem) :
    Except Interruption Outcome × Journal :=
  Generation.conclude journal (quietStages arguments settings) { files := fs }

/-- The paths that a run follows to read: its source directory, what is in there, and the license
file. -/
def readWays (settings : Settings) (fs : FileSystem) : List Path :=
  settings.source ::
    (placesOf fs settings.source).flatMap (fun directory =>
      (fs.namesIn directory).map (entryPath settings.source)) ++
    match (License.asked settings.license).map fs.expandHome with
    | some (.ok file) => [file]
    | _ => []

/-- The paths that a run follows to write: those along its destination, and its target. -/
def writeWays (settings : Settings) : List Path :=
  settings.destination.names.inits.map (fun names => { settings.destination with names }) ++
    [targetOf settings]

theorem targetOf_mem_writeWays (settings : Settings) : targetOf settings ∈ writeWays settings :=
  List.mem_append_right _ (List.mem_singleton.mpr rfl)

/-- What is touched is out of the way of an invocation: no path that it reads meets it, and none
that it writes, not even with the directories that are made on that way. Nor does it add an entry to
the source directory. -/
structure OutOfTheWay (touched : Location → Bool) (arguments : Arguments) (settings : Settings)
    (fs : FileSystem) : Prop where
  reads : ∀ path ∈ readWays settings fs, Clear touched fs path
  writes : arguments.destination.isSome = true → ∀ path ∈ writeWays settings,
    Clear touched (quietly arguments settings fs).2.files path
  entries : ∀ directory ∈ placesOf fs settings.source, ∀ location, touched location = true →
    location.dropLast ≠ directory

section Ways

variable {touched : Location → Bool} {arguments : Arguments} {settings : Settings}
  {fs other : FileSystem}

theorem quietly_files (arguments : Arguments) (settings : Settings) (fs : FileSystem) :
    (quietly arguments settings fs).2.files =
      if arguments.destination.isSome then (Generation.work settings fs).1 else fs := by
  rw [quietly, quietStages]
  cases arguments.destination with
  | some destination => exact (Generation.run_journal settings { files := fs }).2
  | none =>
    obtain ⟨-, hfiles⟩ := Generation.gather_journal settings missingText { files := fs }
    simp only [Generation.conclude, Generation.bind_apply]
    rcases hgather : Generation.gather journal settings missingText { files := fs }
      with ⟨(failure | interruption) | inputs, after⟩ <;>
    · rw [hgather] at hfiles
      exact hfiles

/-- Nothing is in the way of nothing. -/
theorem OutOfTheWay.nothing (arguments : Arguments) (settings : Settings) (fs : FileSystem) :
    OutOfTheWay (fun _ => false) arguments settings fs where
  reads := fun _ _ _ _ => rfl
  writes := fun _ _ _ _ _ => rfl
  entries := fun _ _ _ htouched => absurd htouched (by decide)

theorem OutOfTheWay.load_eq (h : OutOfTheWay touched arguments settings fs)
    (hsame : SameOutside touched fs other) :
    Source.load other settings.source settings.extension settings.sort =
      Source.load fs settings.source settings.extension settings.sort := by
  refine Source.load_outside hsame _ _ (h.reads _ (by simp [readWays])) ?_
  intro directory entry hresolve
  have hplace := (mem_placesOf_iff fs settings.source directory).mpr ⟨entry, hresolve⟩
  refine ⟨h.entries directory hplace, fun name hname => h.reads _ ?_⟩
  refine List.mem_append_left _ (List.mem_cons_of_mem _ ?_)
  exact List.mem_flatMap.mpr ⟨directory, hplace, List.mem_map_of_mem hname⟩

theorem OutOfTheWay.license_eq (h : OutOfTheWay touched arguments settings fs)
    (hsame : SameOutside touched fs other) :
    License.resolve other settings.license = License.resolve fs settings.license := by
  refine License.resolve_outside hsame fun asked file hasked hfile => h.reads _ ?_
  refine List.mem_append_right _ ?_
  rw [hasked, Option.map_some, hfile]
  exact List.mem_singleton.mpr rfl

/-- The file is written beside what is touched as it is without that. -/
theorem OutOfTheWay.write_with (h : OutOfTheWay touched arguments settings fs)
    (hdestination : arguments.destination.isSome = true)
    (hbelow : ∀ location, touched location.dropLast = true → touched location = true)
    (hsame : SameOutside touched fs other) {license : License}
    {documents : List Document}
    (hinputs : Generation.inputs settings fs = .ok (license, documents)) :
    let text := Generation.sourceText settings license.text documents
    let step := Output.write other settings.destination settings.outputName Output.fileMode text
    let step' := Output.write fs settings.destination settings.outputName Output.fileMode text
    step.2 = step'.2 ∧ MovesWith touched other step'.1 step.1 := by
  intro text step step'
  -- What an invocation without a log ends with is what is written here.
  have hafter : (quietly arguments settings fs).2.files = step'.1 := by
    rw [quietly_files, if_pos hdestination, Generation.work_files hinputs]
  have hclear := h.writes hdestination
  rw [hafter] at hclear
  have hstart : MovesWith touched other fs other := ⟨hsame, hbelow, fun _ _ => rfl⟩
  refine Output.write_with hstart (fun beginning hbeginning => ?_) ?_ (.refl _)
  · refine hclear _ (List.mem_append_left _ (List.mem_map.mpr ⟨beginning, ?_, rfl⟩))
    exact (List.mem_inits beginning _).mpr hbeginning
  · exact hclear _ (targetOf_mem_writeWays settings)

end Ways

section Correspondence

variable {scope : Scope} {arguments : Arguments} {settings : Settings} {fs : FileSystem}

theorem takesReports_within (scope : Scope) :
    TakesReports surroundings fun s t => Within scope t.files s :=
  fun _ _ event hwithin => Service.report_within hwithin programName event

theorem reads_within (h : OutOfTheWay scope.touched arguments settings fs) :
    ReadsAlike surroundings settings fun s t => t.files = fs ∧ Within scope t.files s where
  reports := fun s t event hstate => ⟨hstate.1, takesReports_within scope s t event hstate.2⟩
  load := by
    rintro s t ⟨rfl, hwithin⟩
    exact h.load_eq (scope.outside hwithin.keeps)
  license := by
    rintro s t ⟨rfl, hwithin⟩
    exact h.license_eq (scope.outside hwithin.keeps)

theorem writes_within (h : OutOfTheWay scope.touched arguments settings fs)
    (hdestination : arguments.destination.isSome = true) :
    WritesAlike surroundings settings (fun s t => t.files = fs ∧ Within scope t.files s)
      fun s t => Within scope t.files s where
  reports := takesReports_within scope
  write := by
    rintro s t license documents ⟨rfl, hwithin⟩ hinputs
    obtain ⟨hresult, hmoved⟩ :=
      h.write_with hdestination scope.below (scope.outside hwithin.keeps) hinputs
    have hgrows := Output.write_grows t.files settings.destination settings.outputName
      Output.fileMode (Generation.sourceText settings license.text documents)
    exact ⟨hresult, scope.withFiles hwithin.keeps hgrows hmoved, hwithin.owns⟩

/-- A log that is out of the way changes nothing: the stages of an invocation end as they do without
it, and all that it writes stays within its scope. -/
theorem conclude_quietly (h : OutOfTheWay scope.touched arguments settings fs) {s : Service}
    (hwithin : Within scope fs s) :
    Corresponds (fun s t => Within scope t.files s)
      (Generation.conclude surroundings (stages arguments settings) s)
      (quietly arguments settings fs) := by
  refine Generation.conclude_corresponds (takesReports_within scope) ?_
  -- Until the file is written, both read the files as they were at first.
  have hreads := reads_within h
  have hstart : ({ files := fs } : Journal).files = fs ∧
      Within scope ({ files := fs } : Journal).files s := ⟨rfl, hwithin⟩
  rw [stages, quietStages]
  cases hdestination : arguments.destination with
  | some destination =>
    have hwrites := writes_within h (by rw [hdestination]; rfl)
    obtain ⟨hresult, hstate⟩ := Generation.stages_corresponds hreads hwrites hstart
    exact ⟨hresult, hstate.elim And.right id⟩
  | none =>
    refine Generation.corresponds_bind (Generation.gather_corresponds hreads missingText hstart)
      (fun _ _ hstate => hstate.2) fun _ _ hstate => ?_
    exact ⟨rfl, hstate.2⟩

end Correspondence

end CommandLine

end HelpText
