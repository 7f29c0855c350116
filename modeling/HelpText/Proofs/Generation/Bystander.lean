import HelpText.Proofs.FileSystem.NewEntry
import HelpText.Proofs.Generation.ListingOrder
import HelpText.Proofs.Generation.Rerun
import HelpText.Proofs.Generation.Ways

/-!
Entries of the source directory that are no documents. Main statement: such an entry makes no
difference to a run that does not come upon it, be it a file, a directory with all that is in it or
a link.
-/

namespace HelpText

open FileSystem (NewEntry Clear MovesWith SameOutside Grows entryPath Examinable)

theorem Source.select_congr {extension : Text} {listing listing' : List Path}
    (h : listing'.filter (fun path => extensionOf path.name = extension) =
      listing.filter fun path => extensionOf path.name = extension) (sort : Bool) :
    select extension sort listing' = select extension sort listing := by
  rw [select, select, h]

namespace Generation

/-- Something new stands in the source directory, no document by its name. Neither the directories
of the run nor what it reads are reached through it. -/
structure Beside (settings : Settings) (fs other : FileSystem) (directory : Location)
    (name : Text) : Prop extends NewEntry fs other (directory ++ [name]) where
  source : ∃ mode, fs.resolve true settings.source = .ok (.occupied directory (.directory mode))
  extension : extensionOf name ≠ settings.extension
  /-- The process works in a directory that was there. -/
  founded : ∃ entry, fs.entryAt fs.working = some entry
  documents : ∀ n, isDocument settings other directory n = true →
    Clear (directory ++ [name]).isPrefixOf fs (entryPath settings.source n)
  license : ∀ asked file, License.asked settings.license = some asked →
    fs.expandHome asked = .ok file → Clear (directory ++ [name]).isPrefixOf fs file
  destination : Clear (directory ++ [name]).isPrefixOf (work settings fs).1 settings.destination

/-- Nor is the generated file reached through it. -/
structure Bystander (settings : Settings) (fs other : FileSystem) (directory : Location)
    (name : Text) : Prop extends Beside settings fs other directory name where
  target : Clear (directory ++ [name]).isPrefixOf (work settings fs).1 (targetOf settings)
  /-- Of the entry itself, and of a link that leads through it, one can tell if it is a file. -/
  examined : ∀ n ∈ other.namesIn directory,
    n = name ∨ ¬Clear (directory ++ [name]).isPrefixOf fs (entryPath settings.source n) →
      ∃ isFile, other.entryIsFile directory settings.source n = .ok isFile
  /-- The other names keep the order in which they are listed, or it makes no difference. -/
  order : (other.namesIn directory).filter (· ≠ name) = fs.namesIn directory ∨
    settings.sort = true ∧ fs.Examinable settings.source

theorem listFiles_of_source {fs : FileSystem} {directory : Location} {mode : Nat} {source : Path}
    (hsource : fs.resolve true source = .ok (.occupied directory (.directory mode))) :
    fs.listFiles source =
      (FileSystem.keepNames (fs.entryIsFile directory source) (fs.namesIn directory)).map
        (List.map (entryPath source)) := by
  rw [FileSystem.listFiles, hsource]
  rfl

namespace Bystander

variable {settings : Settings} {fs other : FileSystem} {directory : Location} {name : Text}

theorem entryIsFile_cases (h : Bystander settings fs other directory name) {n : Text}
    (hmem : n ∈ other.namesIn directory) (hne : n ≠ name) :
    other.entryIsFile directory settings.source n = fs.entryIsFile directory settings.source n ∨
      fs.entryIsFile directory settings.source n = .ok false ∧
        ∃ isFile, other.entryIsFile directory settings.source n = .ok isFile ∧
          (isFile = true → decide (extensionOf n = settings.extension) = false) := by
  by_cases hclear : Clear (directory ++ [name]).isPrefixOf fs (entryPath settings.source n)
  · exact Or.inl (h.toNewEntry.entryIsFile_of_clear hne hclear)
  · obtain ⟨isFile, hisFile⟩ := h.examined n hmem (Or.inr hclear)
    rcases h.toNewEntry.entryIsFile_of_not_clear hne hclear hisFile with hsame | hbefore
    · exact Or.inl hsame
    · refine Or.inr ⟨hbefore, isFile, hisFile, ?_⟩
      rintro rfl
      rw [decide_eq_false_iff_not]
      intro hextension
      exact hclear (h.documents n (by simp [isDocument, hextension, hisFile]))

/-- The documents that are listed are the same, and so is what hinders a listing. -/
theorem discover_eq (h : Bystander settings fs other directory name) :
    Source.discover other settings.source settings.extension settings.sort =
      Source.discover fs settings.source settings.extension settings.sort := by
  obtain ⟨mode, hsource⟩ := h.source
  have hother : other.resolve true settings.source = .ok (.occupied directory (.directory mode)) :=
    (h.resolve_eq (h.clear_of_resolve hsource) true).trans hsource
  have hname : decide (extensionOf name = settings.extension) = false := by
    simpa using h.extension
  have hnames := FileSystem.keepNames_without (p := fs.entryIsFile directory settings.source) hname
    (fun hmem => h.examined name hmem (Or.inl rfl)) fun n hmem hne => h.entryIsFile_cases hmem hne
  have hchosen {kept kept' : List Text}
      (heq : kept'.filter (fun n => extensionOf n = settings.extension) =
        kept.filter fun n => extensionOf n = settings.extension) :
      Source.select settings.extension settings.sort (kept'.map (entryPath settings.source)) =
        Source.select settings.extension settings.sort (kept.map (entryPath settings.source)) := by
    refine Source.select_congr ?_ settings.sort
    rw [filter_entryPaths, filter_entryPaths, heq]
  rw [Source.discover, Source.discover, listFiles_of_source hsource, listFiles_of_source hother]
  rcases h.order with horder | ⟨hsort, hexamined⟩
  · rw [horder] at hnames
    generalize FileSystem.keepNames (other.entryIsFile directory settings.source) _ = result'
      at hnames ⊢
    generalize FileSystem.keepNames (fs.entryIsFile directory settings.source) _ = result
      at hnames ⊢
    rcases result with fault | kept <;> rcases result' with fault' | kept'
    · cases hnames
      rfl
    · cases hnames
    · cases hnames
    · exact congrArg Except.ok (hchosen (Except.ok.inj hnames))
  · -- All old names can be examined, so both listings succeed, if in another order.
    have hall := hexamined directory mode hsource
    have hperm := h.namesIn_perm
    have hkept := (FileSystem.keepNames_eq_ok_iff _ _ _).mpr ⟨hall, rfl⟩
    have hkept' := (FileSystem.keepNames_eq_ok_iff _ _ _).mpr
      ⟨fun n hmem => hall n (hperm.mem_iff.mp hmem), rfl⟩
    rw [hkept'] at hnames
    rw [hkept]
    generalize FileSystem.keepNames (other.entryIsFile directory settings.source) _ = result'
      at hnames ⊢
    cases result' with
    | error fault => cases hnames
    | ok kept' =>
      refine congrArg Except.ok ((hchosen (Except.ok.inj hnames)).trans ?_)
      rw [hsort]
      refine Source.select_perm ?_ name_of_mem_listing
      exact ((hperm.filter _).map _).filter _

theorem load_eq (h : Bystander settings fs other directory name) :
    Source.load other settings.source settings.extension settings.sort =
      Source.load fs settings.source settings.extension settings.sort := by
  have hdiscover := h.discover_eq
  rw [Source.load, Source.load, hdiscover]
  cases hpaths : Source.discover fs settings.source settings.extension settings.sort with
  | error stop => rfl
  | ok paths =>
    rw [hpaths, Source.discover] at hdiscover
    refine Source.readAll_congr fun path hpath => h.readText_eq ?_
    split at hdiscover
    · next listing hlisting =>
      cases hdiscover
      obtain ⟨mode, hsource⟩ := h.source
      have hother := (h.resolve_eq (h.clear_of_resolve hsource) true).trans hsource
      obtain ⟨hlisted, hextension⟩ := (Source.mem_select _ _ _ _).mp hpath
      obtain ⟨location, mode', hagain, -, rfl⟩ :=
        (FileSystem.listFiles_eq_ok_iff _ _ _).mp hlisting
      rw [hother] at hagain
      cases hagain
      obtain ⟨n, hn, rfl⟩ := List.mem_map.mp hlisted
      rw [FileSystem.name_entryPath] at hextension
      have hisFile := (List.mem_filter.mp hn).2
      exact h.documents n (by simpa [isDocument, hextension] using hisFile)
    · cases hdiscover

theorem untouched_working (h : Bystander settings fs other directory name) :
    (directory ++ [name]).isPrefixOf fs.working = false := by
  obtain ⟨entry, hentry⟩ := h.founded
  rw [Bool.eq_false_iff]
  intro htouched
  rw [h.absent _ htouched] at hentry
  cases hentry

/-- At first what is new is all there is beside the same. -/
theorem movesWith (h : Bystander settings fs other directory name) :
    MovesWith (directory ++ [name]).isPrefixOf other fs other := by
  refine ⟨h.toSameOutside, fun location htouched => ?_, fun _ _ => rfl⟩
  rw [List.isPrefixOf_iff_prefix] at htouched ⊢
  exact htouched.trans (List.dropLast_prefix location)

/-- The file is written with the same result, and what is new stays as it is. -/
theorem write_eq (h : Bystander settings fs other directory name) {license : License}
    {documents : List Document} (hinputs : inputs settings fs = .ok (license, documents)) :
    let text := sourceText settings license.text documents
    let step := Output.write fs settings.destination settings.outputName Output.fileMode text
    let step' := Output.write other settings.destination settings.outputName Output.fileMode text
    step'.2 = step.2 ∧ MovesWith (directory ++ [name]).isPrefixOf other step.1 step'.1 := by
  intro text step step'
  have hafter : (work settings fs).1 = step.1 := work_files hinputs
  refine Output.write_with h.movesWith ?_ h.target (hafter ▸ .refl _)
  intro beginning hbeginning
  refine Clear.beginning (FileSystem.reachesDown_isPrefixOf (by simp)) ?_ hbeginning h.destination
  have hprocess := (Output.write_grows fs settings.destination settings.outputName Output.fileMode
    text).toSameProcess
  rw [hafter, hprocess.working]
  exact h.untouched_working

end Bystander

/-- A new entry of the source directory that is no document by its name makes no difference to a run
that does not come upon it: the run ends alike, reports the same, gives the generated file the same
content and leaves the entry, and what is below it, as it is. -/
theorem run_bystander {settings : Settings} {s : Journal} {other : FileSystem}
    {directory : Location} {name : Text} (h : Bystander settings s.files other directory name) :
    let after := (run journal settings s).2
    let after' := (run journal settings { s with files := other }).2
    (run journal settings { s with files := other }).1 = (run journal settings s).1 ∧
      after'.events = after.events ∧
      after'.files.readFile (targetOf settings) = after.files.readFile (targetOf settings) ∧
      MovesWith (directory ++ [name]).isPrefixOf other after.files after'.files := by
  intro after after'
  -- Until the file is written both runs have their first files; then the same has become of both.
  let R (first second : Journal) : Prop :=
    first.files = other ∧ second.files = s.files ∧ first.events = second.events
  let R' (first second : Journal) : Prop :=
    MovesWith (directory ++ [name]).isPrefixOf other second.files first.files ∧
      first.events = second.events
  have hreads : ReadsAlike journal settings R := by
    refine ⟨?_, ?_, ?_⟩
    · rintro first second event ⟨hfirst, hsecond, hevents⟩
      exact ⟨hfirst, hsecond, congrArg (· ++ [event]) hevents⟩
    · rintro first second ⟨hfirst, hsecond, -⟩
      change Source.load first.files _ _ _ = _
      rw [hfirst, hsecond, h.load_eq]
    · rintro first second ⟨hfirst, hsecond, -⟩
      change License.resolve first.files _ = _
      rw [hfirst, hsecond]
      exact License.resolve_outside h.toSameOutside h.license
  have hwrites : WritesAlike journal settings R R' := by
    refine ⟨?_, ?_⟩
    · rintro first second event ⟨hmoved, hevents⟩
      exact ⟨hmoved, congrArg (· ++ [event]) hevents⟩
    · rintro first second license documents ⟨hfirst, hsecond, hevents⟩ hinputs
      rw [hsecond] at hinputs
      obtain ⟨hresult, hmoved⟩ := h.write_eq hinputs
      change (Output.write first.files _ _ _ _).2 = _ ∧
        MovesWith _ other _ (Output.write first.files _ _ _ _).1 ∧ _
      rw [hfirst, hsecond]
      exact ⟨hresult, hmoved, hevents⟩
  obtain ⟨hsame, hstate⟩ := run_corresponds hreads hwrites
    (s := { s with files := other }) (t := s) ⟨rfl, rfl, rfl⟩
  have hmoved : MovesWith (directory ++ [name]).isPrefixOf other after.files after'.files ∧
      after'.events = after.events := by
    rcases hstate with ⟨hfirst, hsecond, hevents⟩ | hboth
    · refine ⟨?_, hevents⟩
      change MovesWith _ other (run journal settings s).2.files _
      rw [hsecond, show after'.files = other from hfirst]
      exact h.movesWith
    · exact hboth
  refine ⟨hsame, hmoved.2, ?_, hmoved.1⟩
  have htarget := h.target
  rw [← (run_journal settings s).2] at htarget
  exact hmoved.1.readFile_eq htarget

theorem mem_namesIn_of_isDocument {settings : Settings} {fs : FileSystem} {directory : Location}
    {n : Text} (h : isDocument settings fs directory n = true) : n ∈ fs.namesIn directory := by
  rw [FileSystem.mem_namesIn_iff, FileSystem.mem_keys_iff fs (by simp)]
  rw [Option.ne_none_iff_exists'.symm]
  intro hnone
  simp [isDocument, FileSystem.entryIsFile, hnone] at h

/-- Run from the root with no license asked for. -/
theorem Beside.of_listing {settings : Settings} {fs other : FileSystem} {directory : Location}
    {name : Text} (hnew : NewEntry fs other (directory ++ [name]))
    (hsource : ∃ mode,
      fs.resolve true settings.source = .ok (.occupied directory (.directory mode)))
    (hextension : extensionOf name ≠ settings.extension)
    (hworking : fs.working = []) (hlicense : settings.license = none)
    (hlisting : ∀ n ∈ other.namesIn directory, isDocument settings other directory n = true →
      Clear (directory ++ [name]).isPrefixOf fs (entryPath settings.source n))
    (hdestination : Clear (directory ++ [name]).isPrefixOf (work settings fs).1
      settings.destination) :
    Beside settings fs other directory name where
  toNewEntry := hnew
  source := hsource
  extension := hextension
  founded := ⟨_, by rw [hworking]; rfl⟩
  documents n hdocument := hlisting n (mem_namesIn_of_isDocument hdocument) hdocument
  license asked _ hasked := by
    rw [hlicense] at hasked
    cases hasked
  destination := hdestination

/-- Two documents and a link that leads nowhere. -/
def dangling : FileSystem :=
  docsWith [(.of "a.md", plainDocument), (.of "x", .link (.of "new/y.md"))] []

/-- The same, with a directory of documents to which the link leads. -/
def connected : FileSystem :=
  docsWith [(.of "new", .directory Entry.newDirectoryMode), (.of "a.md", plainDocument),
      (.of "x", .link (.of "new/y.md"))]
    [([.of "docs", .of "new", .of "y.md"], plainDocument)]

theorem run_bystander_connected :
    Bystander plainSettings dangling connected [.of "docs"] (.of "new") ∧
      (∃ n, ¬Clear [.of "docs", .of "new"].isPrefixOf dangling (entryPath plainSettings.source n)) ∧
      (run journal plainSettings { files := connected }).1 =
        (run journal plainSettings { files := dangling }).1 ∧
      (run journal plainSettings { files := connected }).2.events =
        (run journal plainSettings { files := dangling }).2.events := by
  have hnew : NewEntry dangling connected [.of "docs", .of "new"] :=
    .of_entries (by decide) ⟨rfl, rfl, rfl, rfl, rfl⟩ (by decide +kernel) (by decide +kernel)
  have hbeside : Beside plainSettings dangling connected [.of "docs"] (.of "new") :=
    .of_listing hnew ⟨Entry.newDirectoryMode, by decide +kernel⟩ (by decide) rfl rfl
      (by decide +kernel) (by decide +kernel)
  have hexamined : ∀ n ∈ connected.namesIn [.of "docs"],
      connected.entryIsFile [.of "docs"] plainSettings.source n = .ok true ∨
        connected.entryIsFile [.of "docs"] plainSettings.source n = .ok false := by
    decide +kernel
  have hbystander : Bystander plainSettings dangling connected [.of "docs"] (.of "new") :=
    { toBeside := hbeside
      target := by decide +kernel
      examined := fun n hmem _ =>
        (hexamined n hmem).elim (fun h => ⟨true, h⟩) fun h => ⟨false, h⟩
      order := Or.inl (by decide +kernel) }
  obtain ⟨hresult, hevents, -⟩ := run_bystander (s := { files := dangling }) hbystander
  exact ⟨hbystander, ⟨.of "x", by decide +kernel⟩, hresult, hevents⟩

/-- A run tells whether the new entry, which is not the generated file, is there. -/
def DiffersBeside (settings : Settings) (fs other : FileSystem) (name : Text) : Prop :=
  Beside settings fs other [.of "docs"] name ∧
    [.of "docs", name] ∉ FileSystem.placesOf (work settings other).1 (targetOf settings) ∧
    (run journal settings { files := other }).1 ≠ (run journal settings { files := fs }).1

/-- The generated file is to stand in a directory that there is not. -/
def awaiting : FileSystem :=
  docsWith [(.of "a.md", plainDocument)] [([.of "out"], .directory Entry.newDirectoryMode),
    ([.of "out", .of "docs.go"], .link (.of "../docs/new/f"))]

/-- Without another entry a run depends on the new one where the generated file is a link that
leads below it, and where the names are left in the order in which they are listed. A link that
leads back to itself cannot be told to be no file. -/
theorem run_differs_beside :
    DiffersBeside plainSettings awaiting
        { awaiting with
          entries := ([.of "docs", .of "new"], .directory Entry.newDirectoryMode) ::
            awaiting.entries }
        (.of "new") ∧
      DiffersBeside { plainSettings with sort := false } turning
        { turning with entries := ([.of "docs", .of "new"], plainDocument) :: turning.entries }
        (.of "new") ∧
      DiffersBeside plainSettings (docsWith [] [])
        (docsWith [(.of "new", .link (.of "new"))] []) (.of "new") := by
  refine ⟨⟨?_, ?_⟩, ⟨?_, ?_⟩, ?_, ?_⟩
  case refine_2 | refine_4 | refine_6 => decide +kernel
  all_goals
    exact .of_listing
      (.of_entries (by decide) ⟨rfl, rfl, rfl, rfl, rfl⟩ (by decide +kernel) (by decide +kernel))
      ⟨Entry.newDirectoryMode, by decide +kernel⟩ (by decide) rfl rfl (by decide +kernel)
      (by decide +kernel)

end Generation

end HelpText
