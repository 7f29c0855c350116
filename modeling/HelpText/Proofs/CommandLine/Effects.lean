import HelpText.Proofs.CommandLine.Console
import HelpText.Proofs.CommandLine.Courses
import HelpText.Proofs.Generation.Unfinished

/-!
What an invocation does, and what it says of it. Main statement: its status, what it shows and what
becomes of the files agree, whichever way it ends.
-/

namespace HelpText

namespace CommandLine

open FileSystem (Clear KeepsFiles SameOutside)
open Generation (Completed EndsWith Gathered Product Stopped documentPaths logsWithin_scope
  starting targetOf textOf)
open Log (Scope Service Site logPath logSite sits_logSite)
open Log.Service (Within absolutePath atFirst filesForLog)

section Effects

variable {console : Console} {fs : FileSystem} {clock : Binary64} {arguments : Arguments}
  {settings : Settings} {touched : Location → Bool} {scope : Scope} {now : FileSystem}
  {s after opened : Service}

/-- Above a log file directories are made, and nothing else. -/
theorem keepsFiles_filesForLog (touched : Location → Bool) (fs : FileSystem) (file : Option Path) :
    KeepsFiles touched fs (filesForLog fs file) := by
  cases file with
  | none => exact fun _ _ _ _ => .rfl
  | some path => exact .of_madeAlong (FileSystem.makePath_madeAlong fs _ _ path.parent)

def logConfiguration (arguments : Arguments) (settings : Settings) : Log.Configuration where
  level := settings.logLevel
  verbose := arguments.choices.verbose
  file := settings.logFile

theorem openLog_eq_ok (h : openLog s arguments settings = (.ok (), opened)) :
    s.configure programName (logConfiguration arguments settings) = (opened, none) := by
  rw [openLog] at h
  split at h
  · cases h
  · split at h
    · next hconfigure =>
      cases h
      exact hconfigure
    · cases h

theorem openLog_eq_failure {failure : Failure}
    (h : openLog s arguments settings = (.error (.failure failure), after)) :
    ∃ fault, s.configure programName (logConfiguration arguments settings) =
      (after, some fault) := by
  rw [openLog] at h
  split at h
  · cases h
  · split at h
    · cases h
    · next fault hconfigure =>
      rw [← (Prod.mk.inj h).2]
      exact ⟨fault, hconfigure⟩

/-- What the log of an invocation touches: nothing without a log file, and else what belongs to the
site at which the file is opened, with the directories above it there. -/
inductive LogTouches (fs : FileSystem) (settings : Settings) : (Location → Bool) → Prop
  | nothing (h : settings.logFile = none) : LogTouches fs settings fun _ => false
  | site {path : Path} {site : Site} (h : settings.logFile = some path)
      (hpath : site.path = absolutePath fs path)
      (hsits : site.Sits (filesForLog fs settings.logFile)) : LogTouches fs settings site.touches

theorem within_opened (htouches : LogTouches fs settings touched)
    (h : openLog (atFirst fs clock) arguments settings = (.ok (), opened)) :
    ∃ scope : Scope, scope.touched = touched ∧ scope.Endures ∧
      Within scope (filesForLog fs settings.logFile) opened := by
  have hconfigure := openLog_eq_ok h
  have hopened : opened =
      ((atFirst fs clock).configure programName (logConfiguration arguments settings)).1 := by
    rw [hconfigure]
  rw [hopened]
  cases htouches with
  | nothing hfile =>
    refine ⟨.silent, rfl, Scope.silent_endures, ?_⟩
    rw [hfile]
    exact Log.Service.configure_within_silent hfile
  | @site path site hfile hpath hsits =>
    rw [hfile] at hsits ⊢
    refine ⟨site.scope _ hsits, rfl, Site.scope_endures hsits, ?_⟩
    exact Log.Service.configure_within_site hfile (Nat.le_refl _) hpath hsits (by rw [hconfigure])

theorem stages_endsWith (arguments : Arguments) (settings : Settings) (s : Service) :
    EndsWith (Completed surroundings settings s) (Stopped surroundings settings s)
      (stages arguments settings s) := by
  rw [stages]
  cases arguments.destination with
  | some destination => exact Generation.stages_endsWith surroundings settings s
  | none =>
    -- Without a destination nothing is written.
    have hgather := Generation.gather_endsWith surroundings settings missingText s
    refine EndsWith.bind (hgather.mono_stop fun _ _ h => .reading h) ?_
    rintro inputs middle ⟨sources, hgathered, -⟩
    exact .error (.reading hgathered.reported)

/-- What an invocation shows and leaves behind that has made its product: the number of the
documents that were there when it came to read them, and what it read in the generated file, if
nothing that its log touches is on the way to that. -/
structure Delivers (touched : Location → Bool) (settings : Settings) (begun : Service)
    (response : Response) (files : FileSystem) : Prop where
  shown : ∃ directory mode,
    let first := begun.report programName (starting settings settings.destination.text)
    first.disk.files.resolve true settings.source = .ok (.occupied directory (.directory mode)) ∧
      .of "Generated " ++
        Text.decimal (documentPaths settings first.disk.files directory).length ++
          .of " document(s) -> " <+: response.output
  written : Clear touched files (targetOf settings) → ∃ sources license gathered,
    Gathered surroundings settings settings.destination.text begun sources license gathered ∧
      files.readFile (targetOf settings) =
        .ok (Utf8.encode (textOf settings license.text sources))

theorem isPlain_generated (count : Nat) :
    ∀ c ∈ (.of "Generated " ++ Text.decimal count ++ .of " document(s) -> " : Text), IsPlain c := by
  have hbefore : ∀ c ∈ Text.of "Generated ", IsPlain c := isPlain_of_all (by decide)
  have hbehind : ∀ c ∈ Text.of " document(s) -> ", IsPlain c := isPlain_of_all (by decide)
  intro c hc
  rcases List.mem_append.mp hc with hc | hc
  · rcases List.mem_append.mp hc with hc | hc
    · exact hbefore c hc
    · exact isPlain_of_isDigit (Nat.isDigit_of_mem_toDigits (by decide) (by decide) hc)
  · exact hbehind c hc

theorem delivers_of_completed (hconsole : console.ShowsPlain) (hendures : scope.Endures)
    (hwithin : Within scope now s) {product : Product}
    (h : Completed surroundings settings s product after) :
    Delivers scope.touched settings s (showOutcome console after (.ok product)).1
      after.disk.files := by
  cases h with
  | @written sources license before _ files hgathered hwrite hafter =>
  constructor
  · obtain ⟨directory, mode, hsource, hlength⟩ := hgathered.loaded.length_eq
    refine ⟨directory, mode, hsource, ?_⟩
    have hcount : sources.length = (documentPaths settings (s.report programName
        (starting settings settings.destination.text)).disk.files directory).length := hlength
    rw [← hcount, showOutcome, List.length_map]
    exact hconsole.start _ (targetOf settings).text (isPlain_generated sources.length)
  · intro hclear
    refine ⟨sources, license, before, hgathered, ?_⟩
    -- What is reported behind the writing changes nothing on the way to the file.
    have hlog := logsWithin_scope hendures
    obtain ⟨hbefore, -⟩ := hlog.reported ⟨now, hwithin⟩ hgathered.reported
    obtain ⟨-, hsame⟩ := hlog.reported (hlog.written hbefore hwrite) hafter
    have hread :
        files.readFile (targetOf settings) = after.disk.files.readFile (targetOf settings) :=
      hsame.symm.readFile_eq hclear
    rw [← hread]
    exact (Output.readFile_of_write hwrite).2

/-- What an invocation shows and leaves behind that has failed: nothing but the reason, and what
belongs to its log. -/
structure Complains (console : Console) (touched : Location → Bool) (fs : FileSystem)
    (failure : Failure) (response : Response) (after : Service) : Prop where
  silent : response.output = []
  reason : ∃ before message, after.standardError = before ++ message ∧
    message = console (.of "Error: " ++ failure.message) ∧ Text.of "Error: " <+: message
  files : KeepsFiles touched fs after.disk.files

theorem complains_of_keepsFiles (hconsole : console.ShowsPlain) {failure : Failure}
    (h : KeepsFiles touched fs after.disk.files) :
    Complains console touched fs failure (showOutcome console after (.error failure)).1
      (showOutcome console after (.error failure)).2 :=
  ⟨rfl, ⟨after.standardError, _, rfl, rfl, hconsole.start _ _ (isPlain_of_all (by decide))⟩, h⟩

theorem keepsFiles_of_unlogged {failure : Failure} (touched : Location → Bool)
    (h : openLog (atFirst fs clock) arguments settings = (.error (.failure failure), after)) :
    KeepsFiles touched fs after.disk.files := by
  obtain ⟨fault, hconfigure⟩ := openLog_eq_failure h
  have hfiles : after.disk.files = filesForLog fs settings.logFile := by
    have hfault : ((atFirst fs clock).configure programName
        (logConfiguration arguments settings)).2 ≠ none := by
      rw [hconfigure]
      nofun
    have hmade := Log.Service.configure_files_of_fault hfault
    rwa [hconfigure] at hmade
  rw [hfiles]
  exact keepsFiles_filesForLog touched fs settings.logFile

theorem generation_cases (arguments : Arguments) (settings : Settings) (opened : Service) :
    let begun := opened.report programName invoked
    (∃ product, (generation arguments settings opened).1 = .ok (.ok product) ∧
      Completed surroundings settings begun product (generation arguments settings opened).2) ∨
    (∃ failure before, Stopped surroundings settings begun (.failure failure) before ∧
      generation arguments settings opened =
        (.ok (.error failure), before.report programName (Generation.failed failure))) ∨
    ∃ interruption, Stopped surroundings settings begun (.interruption interruption)
        (generation arguments settings opened).2 ∧
      (generation arguments settings opened).1 = .error interruption :=
  Generation.conclude_cases (stages_endsWith arguments settings (opened.report programName invoked))

theorem completed_of_product {product : Product}
    (h : generation arguments settings opened = (.ok (.ok product), after)) :
    Completed surroundings settings (opened.report programName invoked) product after := by
  rcases generation_cases arguments settings opened with
    ⟨other, hproduct, hcompleted⟩ | ⟨failure, before, -, hfailed⟩ | ⟨interruption, -, hinterrupted⟩
  · rw [h] at hproduct hcompleted
    cases hproduct
    exact hcompleted
  · rw [h] at hfailed
    cases hfailed
  · rw [h] at hinterrupted
    cases hinterrupted

theorem stopped_of_failed {failure : Failure}
    (h : generation arguments settings opened = (.ok (.error failure), after)) :
    ∃ before, Stopped surroundings settings (opened.report programName invoked) (.failure failure)
        before ∧ after = before.report programName (Generation.failed failure) := by
  rcases generation_cases arguments settings opened with
    ⟨product, hproduct, -⟩ | ⟨other, before, hstopped, hfailed⟩ | ⟨interruption, -, hinterrupted⟩
  · rw [h] at hproduct
    cases hproduct
  · rw [h] at hfailed
    cases hfailed
    exact ⟨before, hstopped, rfl⟩
  · rw [h] at hinterrupted
    cases hinterrupted

theorem keepsFiles_of_failed {failure : Failure} (htouches : LogTouches fs settings touched)
    (hopened : openLog (atFirst fs clock) arguments settings = (.ok (), opened))
    (h : generation arguments settings opened = (.ok (.error failure), after)) :
    KeepsFiles touched fs after.disk.files := by
  obtain ⟨scope, rfl, hendures, hwithin⟩ := within_opened htouches hopened
  have hbegun := Log.Service.report_within hwithin programName invoked
  obtain ⟨before, hstopped, rfl⟩ := stopped_of_failed h
  have hlog := logsWithin_scope hendures
  obtain ⟨hbefore, hmade⟩ := hlog.stopped ⟨_, hbegun⟩ hstopped
  -- The failure itself is reported, too.
  obtain ⟨-, hlast⟩ := hlog.report before (Generation.failed failure) hbefore
  have hfirst := keepsFiles_filesForLog scope.touched fs settings.logFile
  have hopening : SameOutside scope.touched (filesForLog fs settings.logFile)
      (opened.report programName invoked).disk.files := scope.outside hbegun.keeps
  exact ((hfirst.trans (.of_sameOutside hopening)).trans hmade.keepsFiles).trans
    (.of_sameOutside hlast)

theorem delivers_of_product (hconsole : console.ShowsPlain) {product : Product}
    (htouches : LogTouches fs settings touched)
    (hopened : openLog (atFirst fs clock) arguments settings = (.ok (), opened))
    (h : generation arguments settings opened = (.ok (.ok product), after)) :
    Delivers touched settings (opened.report programName invoked)
      (showOutcome console after (.ok product)).1 after.disk.files := by
  obtain ⟨scope, rfl, hendures, hwithin⟩ := within_opened htouches hopened
  have hbegun := Log.Service.report_within hwithin programName invoked
  exact delivers_of_completed hconsole hendures hbegun (completed_of_product h)

end Effects

/-- What an invocation says on its console agrees with what it did. One that is answered from its
arguments or its settings leaves all files as they are. Status 0 is that of a run with a product,
which is in the generated file then. Status 1 is that of a log that cannot be opened or of a run
that failed: only the reason is shown, and no file is other than before but those of the log. -/
theorem invoke_accords {console : Console} (hconsole : console.ShowsPlain) (words : List Text)
    (fs : FileSystem) (clock : Binary64) {touched : Location → Bool}
    (hlog : ∀ arguments settings opened,
      OpensLog words (atFirst fs clock) arguments settings (.ok (), opened) →
        LogTouches fs settings touched) :
    let first := atFirst fs clock
    let response := (invoke console words first).1
    let after := (invoke console words first).2
    (∀ status, response.ending = .answered status → after.disk.files = fs) ∧
      (∀ status, response.ending = .ran status → status = 0 ∨ status = 1) ∧
      (response.ending = .ran 0 ↔ ∃ product, Generates words first (.ok product)) ∧
      (response.ending = .ran 1 ↔
        ∃ failure, LacksLog words first failure ∨ Generates words first (.error failure)) ∧
      (∀ arguments settings opened product,
        OpensLog words first arguments settings (.ok (), opened) →
        (generation arguments settings opened).1 = .ok (.ok product) →
          Delivers touched settings (opened.report programName invoked) response
            after.disk.files) ∧
      ∀ failure, LacksLog words first failure ∨ Generates words first (.error failure) →
        Complains console touched fs failure response after := by
  intro first response after
  refine ⟨?_, ?_, ?_, ?_, ?_, ?_⟩
  · intro status hending
    exact congrArg OpenFiles.files (disk_of_answered hending)
  · intro status hending
    rcases (ran_iff console words first status).mp hending with ⟨-, rfl⟩ | ⟨outcome, -, rfl⟩
    · exact Or.inr rfl
    · cases outcome with
      | ok product => exact Or.inl rfl
      | error failure => exact Or.inr rfl
  · rw [ran_iff]
    constructor
    · rintro (⟨-, h⟩ | ⟨failure | product, h, hstatus⟩)
      · cases h
      · cases hstatus
      · exact ⟨product, h⟩
    · rintro ⟨product, h⟩
      exact Or.inr ⟨_, h, rfl⟩
  · rw [ran_iff]
    constructor
    · rintro (⟨⟨failure, h⟩, -⟩ | ⟨failure | product, h, hstatus⟩)
      · exact ⟨failure, Or.inl h⟩
      · exact ⟨failure, Or.inr h⟩
      · cases hstatus
    · rintro ⟨failure, h | h⟩
      · exact Or.inl ⟨⟨failure, h⟩, rfl⟩
      · exact Or.inr ⟨_, h, rfl⟩
  · intro arguments settings opened product hopens hproduct
    simp only [response, after, hopens.invoke_of_outcome hproduct]
    exact delivers_of_product hconsole (hlog _ _ _ hopens) hopens.opened (Prod.ext hproduct rfl)
  · rintro failure (⟨arguments, settings, last, hopens⟩ |
      ⟨arguments, settings, opened, hopens, hfailed⟩)
    · simp only [response, after, hopens.invoke_eq]
      exact complains_of_keepsFiles hconsole (keepsFiles_of_unlogged touched hopens.opened)
    · simp only [response, after, hopens.invoke_of_outcome hfailed]
      refine complains_of_keepsFiles hconsole ?_
      exact keepsFiles_of_failed (hlog _ _ _ hopens) hopens.opened (Prod.ext hfailed rfl)

section Examples

open Generation (docsWith plainSettings)
open Log (RotatingFile)

/-- With this log file the log of an invocation is where `logSite` says. -/
theorem logTouches_logSite {words : List Text} {arguments : Arguments} {settings : Settings}
    (hread : Arguments.read words = .ok arguments)
    (hload : loadSettings oneDocument arguments = .ok settings)
    (hfile : settings.logFile = some logPath) (clock : Binary64) (arguments' : Arguments)
    (settings' : Settings) (opened : Service)
    (h : OpensLog words (atFirst oneDocument clock) arguments' settings' (.ok (), opened)) :
    LogTouches oneDocument settings' logSite.touches := by
  obtain rfl : arguments' = arguments := Except.ok.inj (h.read.symm.trans hread)
  obtain rfl : settings' = settings := Except.ok.inj (h.load.symm.trans hload)
  refine .site hfile (by decide +kernel) ?_
  rw [hfile]
  exact sits_logSite (by decide +kernel)

/-- The words that name the source directory and the log file `run.log`. -/
def wordsFrom (source : Text) : List Text := [source, .of "out", .of "--log-file=run.log"]

def argumentsFrom (source : Text) : Arguments where
  source := { names := [source] }
  destination := some plainSettings.destination
  choices := { overrides := { logFile := some logPath }, logFile := some (some logPath) }

def settingsFrom (source : Text) : Settings :=
  { plainSettings with source := { names := [source] }, logFile := some logPath }

theorem invoke_accords_logged :
    (∃ begun, Delivers logSite.touches (settingsFrom (.of "docs")) begun
        (invoke consoleLine (wordsFrom (.of "docs"))
          (atFirst oneDocument (.finite false 0 0))).1
        (invoke consoleLine (wordsFrom (.of "docs"))
          (atFirst oneDocument (.finite false 0 0))).2.disk.files) ∧
      Clear logSite.touches
        (invoke consoleLine (wordsFrom (.of "docs"))
          (atFirst oneDocument (.finite false 0 0))).2.disk.files
        (targetOf (settingsFrom (.of "docs"))) ∧
      ∃ failure, Complains consoleLine logSite.touches oneDocument failure
        (invoke consoleLine (wordsFrom (.of "none"))
          (atFirst oneDocument (.finite false 0 0))).1
        (invoke consoleLine (wordsFrom (.of "none"))
          (atFirst oneDocument (.finite false 0 0))).2 := by
  have hread : ∀ source ∈ [Text.of "docs", Text.of "none"],
      Arguments.read (wordsFrom source) = .ok (argumentsFrom source) ∧
        loadSettings oneDocument (argumentsFrom source) = .ok (settingsFrom source) := by
    decide +kernel
  obtain ⟨hdocs, hdocs'⟩ := hread (.of "docs") (by decide)
  obtain ⟨hnone, hnone'⟩ := hread (.of "none") (by decide)
  obtain ⟨-, -, hzero, -, hdelivers, -⟩ := invoke_accords consoleLine_showsPlain
    (wordsFrom (.of "docs")) oneDocument (.finite false 0 0) (logTouches_logSite hdocs hdocs' rfl _)
  obtain ⟨-, -, -, hone, -, hcomplains⟩ := invoke_accords consoleLine_showsPlain
    (wordsFrom (.of "none")) oneDocument (.finite false 0 0) (logTouches_logSite hnone hnone' rfl _)
  have hdone : (invoke consoleLine (wordsFrom (.of "docs"))
        (atFirst oneDocument (.finite false 0 0))).1.ending = .ran 0 ∧
      Clear logSite.touches
        (invoke consoleLine (wordsFrom (.of "docs"))
          (atFirst oneDocument (.finite false 0 0))).2.disk.files
        (targetOf (settingsFrom (.of "docs"))) := by
    decide +kernel
  obtain ⟨product, arguments, settings, opened, hopens, hproduct⟩ := hzero.mp hdone.1
  obtain ⟨failure, hfails⟩ := hone.mp (by decide +kernel)
  have hsettings : settings = settingsFrom (.of "docs") := by
    obtain rfl := Except.ok.inj (hopens.read.symm.trans hdocs)
    exact Except.ok.inj (hopens.load.symm.trans hdocs')
  have hdelivered := hdelivers arguments settings opened product hopens hproduct
  rw [hsettings] at hdelivered
  exact ⟨⟨_, hdelivered⟩, hdone.2, failure, hcomplains failure hfails⟩

/-- The path of a log file, and that of a backup, neither stands nor leads where another path does.
-/
def LeadsElsewhere (log path : Path) (fs : FileSystem) : Prop :=
  ∀ number ∈ List.range (Log.maxBackups + 1),
    ∀ location ∈ endsOf fs (Log.numbered log number), location ∉ endsOf fs path

instance (log path : Path) (fs : FileSystem) : Decidable (LeadsElsewhere log path fs) :=
  inferInstanceAs (Decidable (∀ number ∈ List.range (Log.maxBackups + 1),
    ∀ location ∈ endsOf fs (Log.numbered log number), location ∉ endsOf fs path))

/-- Behind the link, `..` leads to the directory `d`. -/
def aside : FileSystem :=
  docsWith [] [([.of "d"], .directory Entry.newDirectoryMode),
    ([.of "d", .of "sub"], .directory Entry.newDirectoryMode), ([.of "link"], .link (.of "d/sub"))]

def asideSettings : Settings :=
  { plainSettings with
    destination := .read (.of ".")
    logFile := some (.read (.of "link/../docs.go")) }

def asideRun : Response × Service :=
  run [.of "docs", .of ".", .of "--log-file=link/../docs.go"] (atFirst aside (.finite false 0 0))

def asideFailure : Response × Service :=
  run [.of "none", .of "out", .of "--log-file=link/../r.log"] (atFirst aside (.finite false 0 0))

/-- A directory stands where a backup is to be, with a file in it. -/
def shelved : FileSystem where
  entries := [([.of "run.log"], .file [] Entry.newFileMode),
    ([.of "run.log.1"], .directory Entry.newDirectoryMode),
    ([.of "run.log.1", .of "docs.go"], .file [] Entry.newFileMode)]
  home := { names := [.of "home"] }

def shelvedLater : FileSystem :=
  (RotatingFile.rotate logPath Log.maxBackups { files := shelved }).1.files

/-- The log file is a link through its second backup, and the first leads to a directory `e`. -/
def looped : FileSystem where
  entries := [([.of "run.log"], .link (.of "run.log.2/x")),
    ([.of "run.log.1"], .link (.of "e")), ([.of "e"], .directory Entry.newDirectoryMode),
    ([.of "run.log.2"], .directory Entry.newDirectoryMode),
    ([.of "run.log.2", .of "x"], .file [] Entry.newFileMode)]
  home := { names := [.of "home"] }

def loopedLog : RotatingFile where
  path := logPath
  level := Log.info
  limit := 1
  backups := Log.maxBackups

def loopedLater : FileSystem :=
  let (o, log) := loopedLog.opened { files := looped }
  (log.write o (some (.of "line"))).1.files

/-- A log file that stands apart from the generated file, as paths lead, can still be opened in its
place, or where there is to be no file; a rotation moves what is in a directory with the name of a
backup, and opens a file elsewhere where the way to the log leads through a backup. -/
theorem invoke_disagrees :
    (asideRun.1.ending = .ran 0 ∧
      (∀ files ∈ [aside, asideRun.2.disk.files],
        LeadsElsewhere (.read (.of "link/../docs.go")) (targetOf asideSettings) files) ∧
      Source.load aside asideSettings.source asideSettings.extension asideSettings.sort = .ok [] ∧
      ∀ license ∈ (License.resolve aside asideSettings.license).toOption,
        asideRun.2.disk.files.readFile (targetOf asideSettings) ≠
          .ok (Utf8.encode (textOf asideSettings license.text []))) ∧
    (asideFailure.1.ending = .ran 1 ∧ aside.pathExists (.read (.of "r.log")) = .ok false ∧
      asideFailure.2.disk.files.pathExists (.read (.of "r.log")) = .ok true ∧
      ∀ files ∈ [aside, asideFailure.2.disk.files],
        LeadsElsewhere (.read (.of "link/../r.log")) (.read (.of "r.log")) files) ∧
    (shelved.pathExists (.read (.of "run.log.1/docs.go")) = .ok true ∧
      shelvedLater.pathExists (.read (.of "run.log.1/docs.go")) ≠ .ok true ∧
      LeadsElsewhere logPath (.read (.of "run.log.1/docs.go")) shelved) ∧
    looped.pathExists (.read (.of "e/x")) = .ok false ∧
      loopedLater.pathExists (.read (.of "e/x")) = .ok true ∧
      LeadsElsewhere logPath (.read (.of "e/x")) looped := by
  decide +kernel

end Examples

end CommandLine

end HelpText
