import HelpText.Proofs.FileSystem.Trails
import HelpText.Proofs.Generation.Correspondence
import HelpText.Proofs.Generation.Selection
import HelpText.Proofs.Generation.Traces

/-!
Running again. Main statement: a run whose traces do not show in what it reads does the same again,
and leaves all files as they are.
-/

namespace HelpText

namespace Generation

open FileSystem (OneFileMore entryPath placesOf mem_placesOf_iff)

/-- What stands at this location is read by a run: as a document that its directory lists, as what
a listed link leads to, or for the license header. -/
inductive IsInput (settings : Settings) (fs : FileSystem) (location : Location) : Prop
  | listed {directory : Location} {entry : Entry} {paths : List Path} {path : Path}
      (hsource : fs.resolve true settings.source = .ok (.occupied directory entry))
      (hpaths : Processed settings fs paths) (hpath : path ∈ paths)
      (h : location = directory ++ [path.name]) : IsInput settings fs location
  | linked {entry : Entry} {paths : List Path} {path : Path}
      (hpaths : Processed settings fs paths) (hpath : path ∈ paths)
      (h : fs.resolve true path = .ok (.occupied location entry)) : IsInput settings fs location
  | license {asked file : Path} {entry : Entry}
      (hasked : License.asked settings.license = some asked)
      (hfile : fs.expandHome asked = .ok file)
      (h : fs.resolve true file = .ok (.occupied location entry)) : IsInput settings fs location

/-- The locations of the inputs of a run. -/
def inputLocations (settings : Settings) (fs : FileSystem) : List Location :=
  (match fs.listFiles settings.source with
    | .ok listing =>
      (Source.select settings.extension settings.sort listing).flatMap fun path =>
        (placesOf fs settings.source).map (· ++ [path.name]) ++ placesOf fs path
    | .error _ => []) ++
  match (License.asked settings.license).map fs.expandHome with
    | some (.ok file) => placesOf fs file
    | _ => []

theorem isInput_iff (settings : Settings) (fs : FileSystem) (location : Location) :
    IsInput settings fs location ↔ location ∈ inputLocations settings fs := by
  rw [inputLocations, List.mem_append]
  constructor
  · rintro (⟨hsource, ⟨listing, hlisting, rfl⟩, hpath, rfl⟩ |
      ⟨⟨listing, hlisting, rfl⟩, hpath, h⟩ | ⟨hasked, hfile, h⟩)
    · refine Or.inl ?_
      rw [hlisting]
      refine List.mem_flatMap.mpr ⟨_, hpath, List.mem_append_left _ ?_⟩
      exact List.mem_map_of_mem ((mem_placesOf_iff _ _ _).mpr ⟨_, hsource⟩)
    · refine Or.inl ?_
      rw [hlisting]
      refine List.mem_flatMap.mpr ⟨_, hpath, List.mem_append_right _ ?_⟩
      exact (mem_placesOf_iff _ _ _).mpr ⟨_, h⟩
    · refine Or.inr ?_
      rw [hasked, Option.map_some, hfile]
      exact (mem_placesOf_iff _ _ _).mpr ⟨_, h⟩
  · rintro (hlisted | hlicense)
    · split at hlisted
      · next listing hlisting =>
        obtain ⟨path, hpath, hplace⟩ := List.mem_flatMap.mp hlisted
        rcases List.mem_append.mp hplace with hdirect | hlinked
        · obtain ⟨directory, hdirectory, rfl⟩ := List.mem_map.mp hdirect
          obtain ⟨entry, hsource⟩ := (mem_placesOf_iff _ _ _).mp hdirectory
          exact .listed hsource ⟨listing, hlisting, rfl⟩ hpath rfl
        · obtain ⟨entry, hresolve⟩ := (mem_placesOf_iff _ _ _).mp hlinked
          exact .linked ⟨listing, hlisting, rfl⟩ hpath hresolve
      · cases hlisted
    · split at hlicense
      · next file hfile =>
        obtain ⟨asked, hasked, hexpand⟩ := Option.map_eq_some_iff.mp hfile
        obtain ⟨entry, hresolve⟩ := (mem_placesOf_iff _ _ _).mp hlicense
        exact .license hasked hexpand hresolve
      · cases hlicense

instance (settings : Settings) (fs : FileSystem) (location : Location) :
    Decidable (IsInput settings fs location) :=
  decidable_of_iff _ (isInput_iff settings fs location).symm

/-- What a run left behind does not show in what the next one reads. -/
structure Undisturbed (settings : Settings) (fs after : FileSystem) : Prop where
  apart : ∀ location entry,
    after.resolve true (targetOf settings) = .ok (.occupied location entry) →
      ¬IsInput settings after location
  /-- Links in the source directory that led to no file lead to no document now. -/
  links : ∀ directory entry name target,
    fs.resolve true settings.source = .ok (.occupied directory entry) →
      fs.entryAt (directory ++ [name]) = some (.link target) →
        fs.entryIsFile directory settings.source name = .ok false →
          ∃ isFile, after.entryIsFile directory settings.source name = .ok isFile ∧
            (extensionOf name = settings.extension → isFile = false)
  /-- Unsorted documents keep the order in which they are listed. -/
  order : settings.sort = true ∨ ∀ directory entry,
    fs.resolve true settings.source = .ok (.occupied directory entry) →
      (after.namesIn directory).filter (· ∈ fs.namesIn directory) = fs.namesIn directory
  destination : after.pathExists settings.destination = .ok true

/-- The names of a directory that stand for documents. -/
def isDocument (settings : Settings) (fs : FileSystem) (directory : Location) (name : Text) :
    Bool :=
  extensionOf name = settings.extension &&
    decide (fs.entryIsFile directory settings.source name = .ok true)

/-- The paths of the documents in a directory, in the order in which they are listed. -/
def documentPaths (settings : Settings) (fs : FileSystem) (directory : Location) : List Path :=
  ((fs.namesIn directory).filter (isDocument settings fs directory)).map (entryPath settings.source)

theorem filter_entryPaths (source : Path) (extension : Text) (names : List Text) :
    (names.map (entryPath source)).filter (fun path => extensionOf path.name = extension) =
      (names.filter fun name => extensionOf name = extension).map (entryPath source) := by
  rw [List.filter_map]
  congr 2
  funext name
  rw [Function.comp_apply, FileSystem.name_entryPath]

theorem filter_listing (settings : Settings) (fs : FileSystem) (directory : Location) :
    (((fs.namesIn directory).filter fun name =>
        fs.entryIsFile directory settings.source name = .ok true).map
          (entryPath settings.source)).filter
            (fun path => extensionOf path.name = settings.extension) =
      documentPaths settings fs directory := by
  rw [filter_entryPaths, List.filter_filter]
  rfl

section Reading

variable {settings : Settings} {fs after : FileSystem} {location directory : Location} {mode : Nat}
  {name : Text}

theorem examined_old (h : OneFileMore fs after location) (hapart : Undisturbed settings fs after)
    (hsource : fs.resolve true settings.source = .ok (.occupied directory (.directory mode)))
    (hname : name ∈ fs.namesIn directory) {keep : Bool}
    (hkeep : fs.entryIsFile directory settings.source name = .ok keep) :
    ∃ keep', after.entryIsFile directory settings.source name = .ok keep' ∧
      (extensionOf name = settings.extension → keep' = keep) := by
  cases keep with
  | true => exact ⟨true, h.entryIsFile_of_true hkeep, fun _ => rfl⟩
  | false =>
    rw [FileSystem.mem_namesIn_iff, FileSystem.mem_keys_iff fs (by simp)] at hname
    obtain ⟨entry, hentry⟩ := hname
    by_cases hlink : ∃ target, entry = .link target
    · obtain ⟨target, rfl⟩ := hlink
      exact hapart.links directory _ name target hsource hentry hkeep
    · have hsame := h.entryIsFile_eq settings.source hentry fun target heq => hlink ⟨target, heq⟩
      exact ⟨false, hsame.trans hkeep, fun _ => rfl⟩

/-- A new entry of the source directory is a directory, or the file that was written. -/
theorem examined_new (settings : Settings) (h : OneFileMore fs after location)
    (hname : name ∈ after.namesIn directory) (hnew : name ∉ fs.namesIn directory) :
    ∃ keep, after.entryIsFile directory settings.source name = .ok keep ∧
      (keep = true → directory ++ [name] = location) := by
  have hroot : directory ++ [name] ≠ [] := by simp
  rw [FileSystem.mem_namesIn_iff, FileSystem.mem_keys_iff after hroot] at hname
  rw [FileSystem.mem_namesIn_iff, FileSystem.mem_keys_iff fs hroot] at hnew
  obtain ⟨entry, hentry⟩ := hname
  by_cases hlocation : directory ++ [name] = location
  · obtain ⟨content, mode, hwritten⟩ := h.written
    rw [← hlocation] at hwritten
    exact ⟨true, by rw [FileSystem.entryIsFile, hwritten]; rfl, fun _ => hlocation⟩
  · have hnone : fs.entryAt (directory ++ [name]) = none := by
      rw [Option.eq_none_iff_forall_ne_some]
      exact fun entry hentry => hnew ⟨entry, hentry⟩
    obtain ⟨mode, rfl⟩ := h.fresh _ entry hlocation hnone hentry
    refine ⟨false, by rw [FileSystem.entryIsFile, hentry]; rfl, fun hkeep => ?_⟩
    cases hkeep

theorem name_of_mem_listing {names : List Text} {source : Path} :
    ∀ a ∈ names.map (entryPath source), ∀ b ∈ names.map (entryPath source), a.name = b.name →
      a = b := by
  intro a ha b hb hname
  obtain ⟨first, -, rfl⟩ := List.mem_map.mp ha
  obtain ⟨second, -, rfl⟩ := List.mem_map.mp hb
  rw [FileSystem.name_entryPath, FileSystem.name_entryPath] at hname
  rw [hname]

/-- The same documents are processed again, in the same order. -/
theorem processed_again (h : OneFileMore fs after location)
    (hapart : Undisturbed settings fs after) {entry : Entry}
    (hwritten : after.resolve true (targetOf settings) = .ok (.occupied location entry))
    {paths : List Path} (hpaths : Processed settings fs paths) :
    Processed settings after paths := by
  obtain ⟨listing, hlisting, rfl⟩ := hpaths
  obtain ⟨directory, mode, hsource, hall, rfl⟩ := (FileSystem.listFiles_eq_ok_iff _ _ _).mp hlisting
  have hafter : after.resolve true settings.source =
      .ok (.occupied directory (.directory mode)) := by
    obtain ⟨other, halike, hresolve⟩ := h.toGrows.resolve_occupied hsource
    rwa [halike.of_directory] at hresolve
  have hexamined : ∀ name ∈ after.namesIn directory,
      ∃ keep, after.entryIsFile directory settings.source name = .ok keep := by
    intro name hname
    by_cases hold : name ∈ fs.namesIn directory
    · obtain ⟨keep, hkeep⟩ := hall name hold
      obtain ⟨keep', hkeep', -⟩ := examined_old h hapart hsource hold hkeep
      exact ⟨keep', hkeep'⟩
    · obtain ⟨keep, hkeep, -⟩ := examined_new settings h hname hold
      exact ⟨keep, hkeep⟩
  have hlisted := (FileSystem.listFiles_eq_ok_iff after settings.source _).mpr
    ⟨directory, mode, hafter, hexamined, rfl⟩
  refine ⟨_, hlisted, ?_⟩
  have hold : ∀ name ∈ fs.namesIn directory,
      isDocument settings after directory name = isDocument settings fs directory name := by
    intro name hname
    obtain ⟨keep, hkeep⟩ := hall name hname
    obtain ⟨keep', hkeep', hsame⟩ := examined_old h hapart hsource hname hkeep
    rw [isDocument, isDocument, hkeep, hkeep']
    by_cases hextension : extensionOf name = settings.extension
    · rw [hsame hextension]
    · simp [hextension]
  -- A new document could only be the written file, which is no input.
  have hnew : ∀ name ∈ after.namesIn directory, name ∉ fs.namesIn directory →
      isDocument settings after directory name = false := by
    intro name hname hfresh
    obtain ⟨keep, hkeep, hplace⟩ := examined_new settings h hname hfresh
    rw [Bool.eq_false_iff]
    intro hdocument
    obtain ⟨hextension, hfile⟩ : extensionOf name = settings.extension ∧
        after.entryIsFile directory settings.source name = .ok true := by
      simpa [isDocument] using hdocument
    rw [hfile] at hkeep
    refine hapart.apart location entry hwritten
      (@IsInput.listed _ _ _ _ _ _ (entryPath settings.source name) hafter ⟨_, hlisted, rfl⟩ ?_ ?_)
    · rw [Source.mem_select, FileSystem.name_entryPath]
      refine ⟨List.mem_map_of_mem (List.mem_filter.mpr ⟨hname, by simpa using hfile⟩), hextension⟩
    · rw [FileSystem.name_entryPath]
      exact (hplace (Except.ok.inj hkeep).symm).symm
  rcases hsort : settings.sort with _ | _
  · -- Unsorted
    have horder := (hapart.order.resolve_left (by simp [hsort])) directory _ hsource
    have hsame := FileSystem.filter_namesIn_eq horder hold hnew
    simp only [Source.select, filter_listing, documentPaths, hsame, Bool.false_eq_true, ↓reduceIte]
  · refine (Source.select_perm ?_ name_of_mem_listing).symm
    rw [filter_listing, filter_listing, documentPaths, documentPaths]
    exact (FileSystem.filter_namesIn_perm h.appends hold hnew).map _

theorem load_again (h : OneFileMore fs after location) (hapart : Undisturbed settings fs after)
    {entry : Entry}
    (hwritten : after.resolve true (targetOf settings) = .ok (.occupied location entry))
    {sources : List Source}
    (hload : Source.load fs settings.source settings.extension settings.sort = .ok sources) :
    Source.load after settings.source settings.extension settings.sort = .ok sources := by
  obtain ⟨hpaths, htexts⟩ := (load_eq_ok_iff settings fs sources).mp hload
  have hagain := processed_again h hapart hwritten hpaths
  refine (load_eq_ok_iff settings after sources).mpr ⟨hagain, fun source hsource => ?_⟩
  refine h.readText (htexts source hsource) fun entry hentry => ?_
  exact hapart.apart location _ hwritten (.linked hagain (List.mem_map_of_mem hsource) hentry)

theorem license_again (h : OneFileMore fs after location) (hapart : Undisturbed settings fs after)
    {entry : Entry}
    (hwritten : after.resolve true (targetOf settings) = .ok (.occupied location entry))
    {license : License} (hlicense : License.resolve fs settings.license = .ok license) :
    License.resolve after settings.license = .ok license := by
  rw [License.resolve_eq] at hlicense ⊢
  cases hasked : License.asked settings.license with
  | none => rwa [hasked] at hlicense
  | some path =>
    simp only [hasked, h.expandHome] at hlicense ⊢
    cases hfile : fs.expandHome path with
    | error fault => rwa [hfile] at hlicense
    | ok file =>
      simp only [hfile, License.read] at hlicense ⊢
      split at hlicense
      · next text htext =>
        rw [h.readText htext fun entry hentry => hapart.apart location _ hwritten
          (.license hasked ((h.expandHome path).trans hfile) hentry)]
        exact hlicense
      · cases hlicense
      · cases hlicense

end Reading

/-- What a run reads and writes when it succeeds. -/
theorem work_eq_ok {settings : Settings} {fs after : FileSystem} {product : Product}
    (h : work settings fs = (after, .ok product)) :
    ∃ sources license,
      Source.load fs settings.source settings.extension settings.sort = .ok sources ∧
        License.resolve fs settings.license = .ok license ∧
        inputs settings fs = .ok (license, product.documents) ∧
        Output.write fs settings.destination settings.outputName Output.fileMode
          (sourceText settings license.text product.documents) = (after, .ok product.target) := by
  rw [work] at h
  cases hinputs : inputs settings fs with
  | error stop =>
    rw [hinputs] at h
    cases h
  | ok read =>
    obtain ⟨license, documents⟩ := read
    simp only [hinputs] at h
    rcases hwrite : Output.write fs settings.destination settings.outputName Output.fileMode
      (sourceText settings license.text documents) with ⟨written, stop | target⟩
    · simp [hwrite] at h
    · rw [hwrite] at h
      cases h
      rw [inputs] at hinputs
      cases hload : Source.load fs settings.source settings.extension settings.sort with
      | error stop => simp [hload] at hinputs
      | ok sources =>
        simp only [hload] at hinputs
        split at hinputs
        · cases hinputs
        · cases hlicense : License.resolve fs settings.license with
          | error stop => simp [hlicense] at hinputs
          | ok found =>
            rw [hlicense] at hinputs
            cases hinputs
            exact ⟨sources, license, rfl, rfl, rfl, hwrite⟩

/-- A run that succeeded does the same again, as long as what it left behind does not show in what
it reads: it ends alike, reports the same, and all files stay as the first run left them. -/
theorem run_again {settings : Settings} {s : Journal} {product : Product}
    (h : (run journal settings s).1 = .ok (.ok product))
    (hapart : Undisturbed settings s.files (run journal settings s).2.files) :
    run journal settings { s with files := (run journal settings s).2.files } =
      run journal settings s := by
  obtain ⟨hresult, hfiles⟩ := run_journal settings s
  have hwork : work settings s.files = ((run journal settings s).2.files, .ok product) := by
    rw [h] at hresult
    rw [hfiles]
    rcases hw : work settings s.files with ⟨after, (failure | interruption) | made⟩ <;>
      simp [hw] at hresult
    rw [hresult]
  obtain ⟨sources, license, hload, hlicense, hinputs, hwrite⟩ := work_eq_ok hwork
  obtain ⟨htarget, location, hmore, ⟨entry, hwritten⟩, hagain⟩ := Output.write_of_ok hwrite
  rw [htarget] at hwritten
  generalize hafter : (run journal settings s).2.files = after at *
  let R (first second : Journal) : Prop :=
    first.files = after ∧ second.files = s.files ∧ first.events = second.events
  have hreads : ReadsAlike journal settings R := by
    refine ⟨?_, ?_, ?_⟩
    · rintro first second event ⟨hfirst, hsecond, hevents⟩
      exact ⟨hfirst, hsecond, congrArg (· ++ [event]) hevents⟩
    · rintro first second ⟨hfirst, hsecond, -⟩
      change Source.load first.files _ _ _ = _
      rw [hfirst, hsecond, hload, load_again hmore hapart hwritten hload]
    · rintro first second ⟨hfirst, hsecond, -⟩
      change License.resolve first.files _ = _
      rw [hfirst, hsecond, hlicense, license_again hmore hapart hwritten hlicense]
  have hwrites : WritesAlike journal settings R Eq := by
    refine ⟨?_, ?_⟩
    · rintro first second event rfl
      rfl
    · rintro first second license' documents ⟨hfirst, hsecond, hevents⟩ hread
      rw [hsecond, hinputs] at hread
      cases hread
      change (Output.write first.files _ _ _ _).2 = _ ∧
        ({ first with files := (Output.write first.files _ _ _ _).1 } : Journal) = _
      rw [hfirst, hsecond, hwrite, hagain hapart.destination]
      exact ⟨rfl, by rw [hevents]⟩
  obtain ⟨hsame, hstate⟩ := run_corresponds hreads hwrites
    (s := { s with files := after }) (t := s) ⟨rfl, rfl, rfl⟩
  refine Prod.ext hsame ?_
  rcases hstate with ⟨hfirst, -, hevents⟩ | heq
  · exact congrArg₂ Journal.mk (hfirst.trans hafter.symm) hevents
  · exact heq

/-- A run that succeeds, with a file that is none of its inputs, does not do the same again. -/
def DiffersAgain (settings : Settings) (fs : FileSystem) : Prop :=
  let first := run journal settings { files := fs }
  let after := first.2.files
  (∃ product, first.1 = .ok (.ok product)) ∧
    (∀ location entry, after.resolve true (targetOf settings) = .ok (.occupied location entry) →
      ¬IsInput settings after location) ∧
    (run journal settings { files := after }).1 ≠ first.1

def isProduct : Except Interruption Outcome → Bool
  | .ok (.ok _) => true
  | _ => false

theorem isProduct_iff (result : Except Interruption Outcome) :
    isProduct result = true ↔ ∃ product, result = .ok (.ok product) := by
  rcases result with interruption | failure | product <;> simp [isProduct]

instance (settings : Settings) (fs : FileSystem) : Decidable (DiffersAgain settings fs) :=
  let first := run journal settings { files := fs }
  let after := first.2.files
  decidable_of_iff (isProduct first.1 = true ∧
      (∀ location ∈ placesOf after (targetOf settings), ¬IsInput settings after location) ∧
      (run journal settings { files := after }).1 ≠ first.1) <| by
    simp only [DiffersAgain, isProduct_iff, mem_placesOf_iff, forall_exists_index]
    rfl

/-- A source directory that holds these entries, and what else is there. -/
def docsWith (entries : List (Text × Entry)) (others : List (Location × Entry)) : FileSystem where
  home := { names := [.of "home"] }
  entries := ([.of "docs"], .directory Entry.newDirectoryMode) ::
    entries.map (fun entry => ([.of "docs", entry.1], entry.2)) ++ others

def plainSettings : Settings where
  source := { names := [.of "docs"] }
  destination := { names := [.of "out"] }

def plainDocument : Entry := .file (Utf8.encode (.of "## T\nOne line.\n")) Entry.newFileMode

/-- Beside a document stands a link to the directory that the run is to make. -/
def linkedAhead : FileSystem :=
  docsWith [(.of "a.md", plainDocument), (.of "later.md", .link (.of "../out"))] []

theorem run_again_linkedAhead :
    (run journal plainSettings { files := linkedAhead }).1 =
        .ok (.ok
          { documents := [Document.parse false (.of "a.md") (.of "## T\nOne line.\n")]
            target := targetOf plainSettings }) ∧
      run journal plainSettings
          { files := (run journal plainSettings { files := linkedAhead }).2.files } =
        run journal plainSettings { files := linkedAhead } := by
  have hfirst : (run journal plainSettings { files := linkedAhead }).1 =
      .ok (.ok
        { documents := [Document.parse false (.of "a.md") (.of "## T\nOne line.\n")]
          target := targetOf plainSettings }) := by
    decide +kernel
  refine ⟨hfirst, run_again hfirst ⟨?_, ?_, Or.inl rfl, by decide +kernel⟩⟩
  · intro location entry hentry
    have hplace := (mem_placesOf_iff _ _ _).mpr ⟨entry, hentry⟩
    have hplaces : placesOf (run journal plainSettings { files := linkedAhead }).2.files
        (targetOf plainSettings) = [[.of "out", .of "docs.go"]] := by
      decide +kernel
    obtain rfl := List.mem_singleton.mp (hplaces ▸ hplace)
    decide +kernel
  · intro directory entry name target hsource hlink hfile
    have hplaces : placesOf linkedAhead plainSettings.source = [[.of "docs"]] := by decide +kernel
    have hplace := (mem_placesOf_iff _ _ _).mpr ⟨entry, hsource⟩
    obtain rfl := List.mem_singleton.mp (hplaces ▸ hplace)
    -- There is one link in the directory.
    have hin : name ∈ linkedAhead.namesIn [.of "docs"] := by
      rw [FileSystem.mem_namesIn_iff, FileSystem.mem_keys_iff _ (by simp)]
      exact ⟨_, hlink⟩
    have hnames : linkedAhead.namesIn [.of "docs"] = [.of "a.md", .of "later.md"] := by
      decide +kernel
    rw [hnames] at hin
    rcases List.mem_pair.mp hin with rfl | rfl
    · exact absurd hfile (by decide +kernel)
    · exact ⟨false, by decide +kernel, fun _ => rfl⟩

/-- A link that leads through the directory that the run makes. -/
def throughOutput : FileSystem :=
  docsWith [(.of "x.md", .link (.of "../out/../extra"))] [([.of "extra"], plainDocument)]

/-- The directory cannot be made for its long name, but the file is not to stand there. -/
def longSettings : Settings :=
  { plainSettings with
    destination := { names := [.of "a", List.replicate 256 'n'] }
    outputName := .of "/docs.go" }

/-- Three names are listed in another order than two. -/
def turning : FileSystem :=
  { docsWith [(.of "a.md", plainDocument), (.of "b.md", plainDocument)] [] with
    listed := fun names => if names.length < 3 then names else names.reverse
    listed_perm := fun names => by
      split
      · exact .refl _
      · exact names.reverse_perm }

def turningSettings : Settings :=
  { plainSettings with destination := { names := [.of "docs", .of "out"] }, sort := false }

/-- What a run left behind can show in the next one although the file that it wrote is no input: in
where a link leads, in a destination that cannot be looked up, and in the order of a listing. -/
theorem run_again_differs :
    DiffersAgain plainSettings throughOutput ∧
      DiffersAgain longSettings (docsWith [(.of "a.md", plainDocument)] []) ∧
      DiffersAgain turningSettings turning := by
  decide +kernel

end Generation

end HelpText
