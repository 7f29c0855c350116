import HelpText.Proofs.Log.Delivery
import HelpText.Proofs.Log.Rotation

/-!
Reporting to a log. Main statement: with handlers that write within some scope, what is reported
leaves everything outside the scope as it is.
-/

namespace HelpText

namespace Log

open FileSystem (Grows SameOutside MovesWith)

/-- What the files of a log may do: which locations they touch, and what they rely on while the
files beside the log become `now`. -/
structure Scope where
  touched : Location → Bool
  below : ∀ location, touched location.dropLast = true → touched location = true
  Owns : RotatingFile → Prop
  Keeps : FileSystem → OpenFiles → Prop
  outside : ∀ {now o}, Keeps now o → SameOutside touched now o.files
  write : ∀ {now o file} (line : Option Text), Keeps now o → Owns file →
    Keeps now (file.write o line).1 ∧ Owns (file.write o line).2
  withFiles : ∀ {now o next files}, Keeps now o → Grows now next →
    MovesWith touched o.files next files → Keeps next (o.withFiles files)

/-- The scope of a log without a file. -/
def Scope.silent : Scope where
  touched := fun _ => false
  below := fun _ htouched => htouched
  Owns := fun _ => False
  Keeps := fun now o => SameOutside (fun _ => false) now o.files
  outside := fun h => h
  write := fun _ _ howns => howns.elim
  withFiles := fun _ _ hmoved => hmoved.toSameOutside

theorem Site.Keeps.withFiles {site : Site} {fs now next files : FileSystem} {o : OpenFiles}
    (hkeeps : site.Keeps fs now o) (hgrows : Grows now next)
    (hmoved : MovesWith site.touches o.files next files) :
    site.Keeps fs next (o.withFiles files) := by
  refine ⟨⟨hkeeps.streams, fun target htarget => ?_⟩, hkeeps.grows.trans hgrows,
    hmoved.toSameOutside⟩
  -- What the log relies on stands at touched locations.
  change files.entryAt (site.place 0) = _ at htarget
  rw [hmoved.kept _ (Site.touches_place (Nat.zero_le _))] at htarget
  obtain ⟨hfirst, content, mode, hfile⟩ := hkeeps.link target htarget
  exact ⟨hfirst, content, mode, (hmoved.kept _ site.touches_file).trans hfile⟩

/-- The scope of a log file at its site. -/
def Site.scope (site : Site) (fs : FileSystem) (hsits : site.Sits fs) : Scope where
  touched := site.touches
  below := site.touches_below
  Owns := site.Owns
  Keeps := site.Keeps fs
  outside := fun hkeeps => hkeeps.outside
  write := fun line hkeeps howns => hkeeps.write hsits howns line
  withFiles := fun hkeeps hgrows hmoved => hkeeps.withFiles hgrows hmoved

namespace Service

/-- All log files of the loggers write within the scope. -/
structure Within (scope : Scope) (now : FileSystem) (s : Service) : Prop where
  keeps : scope.Keeps now s.disk
  owns : ∀ name handlers, s.loggers.get? name = some handlers →
    ∀ file, Handler.file file ∈ handlers → scope.Owns file

variable {scope : Scope} {now : FileSystem} {s : Service}

theorem deliver_within (hkeeps : scope.Keeps now s.disk) (record : Record) {handler : Handler}
    (howns : ∀ file, handler = .file file → scope.Owns file) :
    scope.Keeps now (s.deliver record handler).1.disk ∧
      (∀ file, (s.deliver record handler).2 = .file file → scope.Owns file) ∧
      (s.deliver record handler).1.loggers = s.loggers := by
  by_cases hlevel : record.level < handler.level
  · rw [deliver.eq_def, if_pos hlevel]
    exact ⟨hkeeps, howns, rfl⟩
  · rw [deliver.eq_def, if_neg hlevel]
    -- Only a file handler changes files; the others write to standard error or nowhere.
    cases handler with
    | file log =>
      obtain ⟨hwritten, hfile⟩ := scope.write record.line.toOption hkeeps (howns log rfl)
      refine ⟨hwritten, fun file heq => ?_, rfl⟩
      cases heq
      exact hfile
    | console =>
      obtain ⟨hdisk, hloggers⟩ := showLine_disk s record.shortLine
      refine ⟨hdisk ▸ hkeeps, fun file heq => ?_, hloggers⟩
      cases heq
    | silent => exact ⟨hkeeps, howns, rfl⟩

theorem deliverAll_within (hkeeps : scope.Keeps now s.disk) (record : Record)
    {handlers : List Handler} (howns : ∀ file, Handler.file file ∈ handlers → scope.Owns file) :
    scope.Keeps now (s.deliverAll record handlers).1.disk ∧
      (∀ file, Handler.file file ∈ (s.deliverAll record handlers).2 → scope.Owns file) ∧
      (s.deliverAll record handlers).1.loggers = s.loggers := by
  induction handlers generalizing s with
  | nil => exact ⟨hkeeps, howns, rfl⟩
  | cons handler rest ih =>
    obtain ⟨hfirst, hfile, hloggers⟩ := deliver_within hkeeps record
      fun file heq => howns file (heq ▸ List.mem_cons_self ..)
    obtain ⟨hlast, hfiles, hloggers'⟩ := ih hfirst
      fun file hin => howns file (List.mem_cons_of_mem _ hin)
    refine ⟨hlast, fun file hin => ?_, hloggers'.trans hloggers⟩
    rcases List.mem_cons.mp hin with heq | hrest
    · exact hfile file heq.symm
    · exact hfiles file hrest

theorem handOver_within (h : Within scope now s) (record : Record) (owner : Option Text) :
    Within scope now (s.handOver record owner) := by
  -- Records that meet no handler go to standard error or nowhere.
  have hbare : Within scope now
      (if defaultLevel ≤ record.level then s.showLine record.bareLine else s) := by
    split
    · obtain ⟨hdisk, hloggers⟩ := showLine_disk s record.bareLine
      exact ⟨hdisk ▸ h.keeps, fun name handlers hget => h.owns name handlers (hloggers ▸ hget)⟩
    · exact h
  rw [handOver.eq_def]
  cases owner with
  | none => exact hbare
  | some owner =>
    simp only [Option.bind_some]
    cases hget : s.loggers.get? owner with
    | none => exact hbare
    | some handlers =>
      cases handlers with
      | nil => exact hbare
      | cons handler rest =>
        obtain ⟨hkeeps, hfiles, hloggers⟩ :=
          deliverAll_within h.keeps record (h.owns owner _ hget)
        refine ⟨hkeeps, fun name handlers hother file hin => ?_⟩
        simp only [Option.getD_some, hloggers, Table.get?_put] at hother
        split at hother
        · cases hother
          exact hfiles file hin
        · exact h.owns name handlers hother file hin

/-- A report changes nothing outside the scope. -/
theorem report_within (h : Within scope now s) (name : Text) (event : Event) :
    Within scope now (s.report name event) := by
  have hconsulted : Within scope now (s.consult (loggerName name) event.level) :=
    ⟨h.keeps, h.owns⟩
  rw [report]
  split
  · exact handOver_within hconsulted _ _
  · exact hconsulted

end Service

/-- A log file at its site can be opened, and is in order then. -/
theorem Site.Sits.openAppend {site : Site} {fs : FileSystem} (hsits : site.Sits fs) :
    ∃ number o, ({ files := fs } : OpenFiles).openAppend site.path = .ok (number, o) ∧
      site.Keeps fs fs o := by
  have hattached : ∀ location, Stream.attached location ∈ [Stream.attached site.file] →
      site.touches location = true := by
    intro location hlocation
    cases List.mem_singleton.mp hlocation
    exact site.touches_file
  obtain ⟨place, hplace, htakes⟩ := hsits.file
  obtain ⟨hroot, -⟩ := htakes.stands (FileSystem.isIn_of_resolve hplace)
  rcases htakes with rfl | ⟨content, mode, rfl⟩
  · refine ⟨0, _, by rw [OpenFiles.openAppend, hplace]; rfl, ⟨hattached, ?_⟩, .refl fs,
      (FileSystem.SameOutside.refl _ fs).put site.touches_file _⟩
    -- The new file is no link, and every link is where it was.
    intro target htarget
    change (fs.put site.file (.file [] Entry.newFileMode)).entryAt (site.place 0) = _ at htarget
    rw [FileSystem.entryAt_put] at htarget
    refine ⟨?_, [], Entry.newFileMode, ?_⟩
    · split at htarget
      · cases htarget
      · split at htarget
        · cases htarget
        · exact htarget
    · change (fs.put site.file (.file [] Entry.newFileMode)).entryAt site.file = _
      exact FileSystem.entryAt_put_self hroot
  · refine ⟨0, _, by rw [OpenFiles.openAppend, hplace]; rfl, ⟨hattached, ?_⟩, .refl fs,
      .refl _ fs⟩
    exact fun target htarget => ⟨htarget, content, mode, FileSystem.isIn_of_resolve hplace⟩

namespace Service

/-- The loggers before any was configured. -/
def atFirst (fs : FileSystem) (clock : Binary64) : Service where
  disk := { files := fs }
  clock := clock

theorem not_file_of_otherHandlers (configuration : Configuration) (file : RotatingFile) :
    Handler.file file ∉ otherHandlers configuration := by
  rw [otherHandlers]
  split
  · simp
  · split <;> simp

/-- The loggers after the first was put in use, before it is given any handlers. -/
def emptied (fs : FileSystem) (clock : Binary64) (name : Text) : Service :=
  { atFirst fs clock with hierarchy := Hierarchy.enrol [] name }.clear name

theorem configure_atFirst (fs : FileSystem) (clock : Binary64) (name : Text)
    (configuration : Configuration) :
    (atFirst fs clock).configure name configuration =
      let s := emptied fs clock (loggerName name)
      match configuration.file with
      | none =>
        ({ s with loggers := s.loggers.put (loggerName name) (otherHandlers configuration) }, none)
      | some path =>
        match s.openFile configuration path with
        | (s, .ok handler) =>
          ({ s with
              loggers := s.loggers.put (loggerName name)
                (handler :: otherHandlers configuration) }, none)
        | (s, .error fault) => (s, some fault) := by
  rw [configure.eq_def]
  rfl

/-- A logger with these handlers is the only one. -/
theorem within_of_only {scope : Scope} {now : FileSystem} {s : Service} {name : Text}
    {handlers : List Handler} (hkeeps : scope.Keeps now s.disk)
    (hloggers : s.loggers = [(name, handlers)])
    (howns : ∀ file, Handler.file file ∈ handlers → scope.Owns file) : Within scope now s := by
  refine ⟨hkeeps, fun other found hget file hin => ?_⟩
  rw [hloggers, Table.get?] at hget
  split at hget
  · cases hget
    exact howns file hin
  · cases hget

/-- The first logger to be configured has the only handlers. -/
theorem within_of_put {scope : Scope} {fs : FileSystem} {s : Service} {name : Text}
    {handlers : List Handler} (hkeeps : scope.Keeps fs s.disk)
    (hloggers : s.loggers = [(name, [])])
    (howns : ∀ file, Handler.file file ∈ handlers → scope.Owns file) :
    Within scope fs { s with loggers := s.loggers.put name handlers } := by
  have hput : s.loggers.put name handlers = [(name, handlers)] := by
    simp only [hloggers, Table.put, ↓reduceIte]
  exact within_of_only hkeeps hput howns

/-- A log without a file leaves all files as they are. -/
theorem configure_silent (fs : FileSystem) (clock : Binary64) (name : Text)
    {configuration : Configuration} (hfile : configuration.file = none) :
    ∃ s, (atFirst fs clock).configure name configuration = (s, none) ∧
      Within Scope.silent fs s := by
  rw [configure_atFirst, hfile]
  refine ⟨_, rfl, within_of_put (.refl _ fs) rfl fun file hin => ?_⟩
  exact absurd hin (not_file_of_otherHandlers configuration file)

theorem openFile_site {site : Site} {fs : FileSystem} (hsits : site.Sits fs) {s : Service}
    (hdisk : s.disk = { files := fs }) {configuration : Configuration} {path : Path}
    (hbackups : configuration.backups ≤ maxBackups)
    (hparent : fs.leadsTo FileSystem.isDirectory path.parent = true)
    (hpath : site.path = absolutePath fs path) :
    ∃ file o, s.openFile configuration path = ({ s with disk := o }, .ok (.file file)) ∧
      site.Keeps fs fs o ∧ site.Owns file := by
  obtain ⟨number, o, hopen, hkeeps⟩ := hsits.openAppend
  have hmade := FileSystem.makePath_of_directory Entry.newDirectoryMode hparent
  rw [hpath] at hopen
  let file : RotatingFile := {
    path := absolutePath fs path
    level := levelOf configuration.level
    limit := configuration.limit
    backups := configuration.backups
    stream := some number }
  refine ⟨file, o, ?_, hkeeps, hpath.symm, hbackups⟩
  simp only [openFile, hdisk, hmade, OpenFiles.withFiles, hopen, file]

/-- A log that is opened at its site keeps within it. -/
theorem configure_site {site : Site} {fs : FileSystem} (hsits : site.Sits fs) (clock : Binary64)
    (name : Text) {configuration : Configuration} {path : Path}
    (hfile : configuration.file = some path) (hbackups : configuration.backups ≤ maxBackups)
    (hparent : fs.leadsTo FileSystem.isDirectory path.parent = true)
    (hpath : site.path = absolutePath fs path) :
    ∃ s, (atFirst fs clock).configure name configuration = (s, none) ∧
      Within (site.scope fs hsits) fs s := by
  have hdisk : (emptied fs clock (loggerName name)).disk = { files := fs } := rfl
  obtain ⟨file, o, hopen, hkeeps, howns⟩ := openFile_site hsits hdisk hbackups hparent hpath
  let opened : Service := { emptied fs clock (loggerName name) with disk := o }
  have hopened : (site.scope fs hsits).Keeps fs opened.disk := hkeeps
  rw [configure_atFirst, hfile]
  simp only [hopen]
  refine ⟨_, rfl, within_of_put hopened rfl fun other hin => ?_⟩
  rcases List.mem_cons.mp hin with heq | hrest
  · cases heq
    exact howns
  · exact absurd hrest (not_file_of_otherHandlers configuration other)

end Service

end Log

end HelpText
