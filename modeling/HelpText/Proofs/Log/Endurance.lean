import HelpText.Proofs.FileSystem.Addition
import HelpText.Proofs.Log.Session

/-!
Logs while the files beside them grow. Main statement: whatever files and directories are made, be
it on the way of the log, the log goes on to touch what belongs to its site and nothing else.
-/

namespace HelpText

namespace FileSystem

/-- What stands at touched locations in `now`, and elsewhere in `files`. -/
def overlay (touched : Location → Bool) (now files : FileSystem) : FileSystem :=
  { now with
    entries := files.entries.keepKeys (fun location => !touched location) ++
      now.entries.keepKeys touched }

section Overlay

variable {touched : Location → Bool} {now old files : FileSystem}

theorem entryAt_overlay (touched : Location → Bool) (now files : FileSystem) (location : Location) :
    (overlay touched now files).entryAt location =
      if touched location then now.entryAt location else files.entryAt location := by
  by_cases hroot : location = []
  · simp [entryAt, hroot]
  · have hget : (overlay touched now files).entryAt location =
        ((files.entries.keepKeys fun location => !touched location).get? location).or
          ((now.entries.keepKeys touched).get? location) := by
      rw [entryAt, if_neg hroot, overlay, Table.get?_append]
    rw [hget, Table.get?_keepKeys, Table.get?_keepKeys, entryAt, entryAt, if_neg hroot,
      if_neg hroot]
    cases touched location with
    | true => exact Option.none_or
    | false => exact Option.or_none

theorem sameOutside_overlay (h : SameProcess now files) :
    SameOutside touched (overlay touched now files) files := by
  refine ⟨⟨h.working, h.home, h.homeOf, h.platform, h.listed⟩, ?_⟩
  simp only [overlay, Table.keepKeys, List.filter_append, List.filter_filter, Bool.and_self]
  -- Of those laid over none is left.
  have hnone : now.entries.filter (fun row => !touched row.1 && touched row.1) = [] := by
    rw [List.filter_eq_nil_iff]
    simp
  rw [hnone, List.append_nil]

/-- What grew beside the touched locations is grown from what they were laid over. -/
theorem grows_overlay (h : SameOutside touched now old) (hgrows : Grows old files) :
    Grows now (overlay touched now files) := by
  refine ⟨⟨rfl, rfl, rfl, rfl, rfl⟩, fun location entry hentry => ?_⟩
  rw [entryAt_overlay]
  cases htouched : touched location with
  | true => exact ⟨entry, hentry, .refl entry⟩
  | false =>
    rw [← h.entryAt_eq htouched] at hentry
    exact hgrows.stays location entry hentry

end Overlay

end FileSystem

namespace Log

open FileSystem (AddsNoLink Grows SameOutside overlay)

/-- The log stays in its scope while files and directories are added anywhere. -/
def Scope.Endures (scope : Scope) : Prop :=
  ∀ {now : FileSystem} {o : OpenFiles} {files : FileSystem}, scope.Keeps now o →
    Grows o.files files → AddsNoLink o.files files → ∃ next, scope.Keeps next (o.withFiles files)

theorem Scope.silent_endures : Scope.silent.Endures :=
  fun _ _ _ => ⟨_, .refl _ _⟩

theorem Site.scope_endures {site : Site} {fs : FileSystem} (hsits : site.Sits fs) :
    (site.scope fs hsits).Endures := by
  intro now o files hkeeps hgrows hlinks
  have hkeeps : site.Keeps fs now o := hkeeps
  refine ⟨overlay site.touches now files, ⟨⟨hkeeps.streams, fun target htarget => ?_⟩, ?_, ?_⟩⟩
  · -- A link in the place of the log is an old one, and its file stays a file.
    obtain ⟨hfirst, content, mode, hfile⟩ := hkeeps.link target (hlinks _ _ htarget)
    obtain ⟨other, hother, halike⟩ := hgrows.stays _ _ hfile
    obtain ⟨content', mode', rfl⟩ := halike.of_file
    exact ⟨hfirst, content', mode', hother⟩
  · exact hkeeps.grows.trans (FileSystem.grows_overlay hkeeps.outside hgrows)
  · have hprocess := hkeeps.outside.toSameProcess.trans hgrows.toSameProcess
    exact FileSystem.sameOutside_overlay hprocess

namespace Service

/-- The files once the directories above the log file were made. -/
def filesForLog (fs : FileSystem) : Option Path → FileSystem
  | none => fs
  | some path => (fs.makePath true Entry.newDirectoryMode path.parent).1

variable {fs : FileSystem} {clock : Binary64} {name : Text} {configuration : Configuration}

/-- Configuring the first logger makes the directories above its file, and the file at most. -/
theorem configure_files_of_fault
    (h : ((atFirst fs clock).configure name configuration).2 ≠ none) :
    ((atFirst fs clock).configure name configuration).1.disk.files =
      filesForLog fs configuration.file := by
  rcases (atFirst fs clock).configure_cases name configuration with
    ⟨-, heq⟩ | ⟨path, o, hfile, rfl, ⟨fault, heq⟩ | ⟨number, disk, -, heq⟩⟩
  · rw [heq] at h
    exact absurd rfl h
  · rw [heq, hfile]
    rfl
  · rw [heq] at h
    exact absurd rfl h

theorem configure_within_silent (hfile : configuration.file = none) :
    Within Scope.silent fs ((atFirst fs clock).configure name configuration).1 := by
  obtain ⟨s, hconfigure, hwithin⟩ := configure_silent fs clock name hfile
  rwa [hconfigure]

/-- A log that was opened keeps to its site, the directories above it included. -/
theorem configure_within_site {site : Site} {path : Path} (hfile : configuration.file = some path)
    (hbackups : configuration.backups ≤ maxBackups) (hpath : site.path = absolutePath fs path)
    (hsits : site.Sits (filesForLog fs (some path)))
    (hopened : ((atFirst fs clock).configure name configuration).2 = none) :
    Within (site.scope _ hsits) (filesForLog fs (some path))
      ((atFirst fs clock).configure name configuration).1 := by
  rcases (atFirst fs clock).configure_cases name configuration with
    ⟨hnone, -⟩ | ⟨other, o, hsome, ho, ⟨fault, heq⟩ | ⟨number, disk, hopen, heq⟩⟩
  · rw [hfile] at hnone
    cases hnone
  · rw [heq] at hopened
    cases hopened
  · obtain rfl : other = path := Option.some.inj (hsome.symm.trans hfile)
    obtain ⟨number', o', hopen', hkeeps⟩ := hsits.openAppend
    -- There is one way to open it.
    have hstart : o = { files := filesForLog fs (some other) } := ho
    rw [hstart, show absolutePath (atFirst fs clock).disk.files other = site.path from hpath.symm,
      hopen'] at hopen
    cases hopen
    rw [heq]
    refine within_of_only hkeeps rfl fun file hin => ?_
    rcases List.mem_cons.mp hin with hfirst | hrest
    · cases hfirst
      exact ⟨hpath.symm, hbackups⟩
    · exact absurd hrest (not_file_of_otherHandlers configuration file)

end Service

end Log

end HelpText
