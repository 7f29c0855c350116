import HelpText.CommandLine.Invocation
import HelpText.Proofs.CommandLine.Quiet
import HelpText.Proofs.Generation.Rerun

/-!
Invocations that differ in what they say about the log. Main statement: where their logs are out of
the way, they answer the same and leave the same in the generated file.
-/

namespace HelpText

open FileSystem (Clear SameOutside isDirectory)

namespace Settings

/-- What an invocation says of the settings, but for those of the log. -/
def Overrides.withoutLog (overrides : Overrides) : Overrides :=
  { overrides with logLevel := none, logFile := none }

/-- The settings, but for those of the log. -/
def withoutLog (settings : Settings) : Settings :=
  { settings with logLevel := [], logFile := none }

/-- Reading the settings stopped at a blank level. -/
def blankLevel : Except Stop Settings := .error (.failure (.settings .logLevelEmpty))

/-- Both give the same settings but for those of the log, or stop for the same reason, unless one of
them stopped at a blank level. -/
def SameUnlessBlank (result other : Except Stop Settings) : Prop :=
  result ≠ blankLevel → other ≠ blankLevel → result.map withoutLog = other.map withoutLog

theorem sameUnlessBlank_bind {α : Type} (first : Except Stop α)
    {next next' : α → Except Stop Settings} (h : ∀ a, SameUnlessBlank (next a) (next' a)) :
    SameUnlessBlank (first >>= next) (first >>= next') := by
  cases first with
  | error stop => exact fun _ _ => rfl
  | ok a => exact h a

theorem checkLogLevel_of_error {value : Text} {fault : Fault}
    (h : checkLogLevel value = .error fault) : fault = .logLevelEmpty := by
  rw [checkLogLevel] at h
  split at h
  · cases h
    rfl
  · cases h

theorem sameUnlessBlank_checkLogLevel (value value' : Text)
    {next next' : Text → Except Stop Settings}
    (h : ∀ level level', SameUnlessBlank (next level) (next' level')) :
    SameUnlessBlank (checked (checkLogLevel value) >>= next)
      (checked (checkLogLevel value') >>= next') := by
  intro hlevel hlevel'
  cases hvalue : checkLogLevel value with
  | error fault =>
    rw [hvalue, checkLogLevel_of_error hvalue] at hlevel
    exact absurd rfl hlevel
  | ok level =>
    cases hvalue' : checkLogLevel value' with
    | error fault =>
      rw [hvalue', checkLogLevel_of_error hvalue'] at hlevel'
      exact absurd rfl hlevel'
    | ok level' =>
      rw [hvalue] at hlevel
      rw [hvalue'] at hlevel'
      exact h level level' hlevel hlevel'

/-- What is said about the log has no influence on the other settings, unless a blank level stops
their reading. -/
theorem load_withoutLog (fs : FileSystem) (source destination : Path) (asked : Option Path)
    (base : Path) {overrides other : Overrides}
    (hsame : overrides.withoutLog = other.withoutLog) :
    SameUnlessBlank (load fs source destination asked base overrides)
      (load fs source destination asked base other) := by
  obtain ⟨full, license, sort, strictNames, outputName, level, file⟩ := overrides
  obtain ⟨full', license', sort', strictNames', outputName', level', file'⟩ := other
  simp only [Overrides.withoutLog, Overrides.mk.injEq, and_self, and_true] at hsame
  obtain ⟨rfl, rfl, rfl, rfl, rfl⟩ := hsame
  rw [load, load]
  -- The same is read and checked in both, in the same order, up to the level.
  refine sameUnlessBlank_bind _ fun rows => ?_
  refine sameUnlessBlank_bind _ fun license => ?_
  refine sameUnlessBlank_bind _ fun outputName => ?_
  refine sameUnlessBlank_bind _ fun extension => ?_
  refine sameUnlessBlank_checkLogLevel _ _ fun level level' => ?_
  exact sameUnlessBlank_bind _ fun file _ _ => rfl

end Settings

namespace CommandLine

open Generation (Corresponds Outcome targetOf)
open Log (Scope Service Site logPath logSite sits_logSite)
open Log.Service (Within absolutePath atFirst)

/-- The arguments, but for what they say about the log. -/
def Arguments.withoutLog (arguments : Arguments) : Arguments :=
  { arguments with
    choices :=
      { arguments.choices with
        overrides := arguments.choices.overrides.withoutLog
        logFile := none
        verbose := false } }

/-- The log of an invocation is apart: the level is not blank, and the log file, if there is one,
can be opened in a directory that is there and stands where no way of the invocation meets it. -/
structure LogApart (fs : FileSystem) (arguments : Arguments) : Prop where
  level : loadSettings fs arguments ≠ Settings.blankLevel
  given : arguments.choices.logFile ≠ some none
  file : ∀ settings path, loadSettings fs arguments = .ok settings →
    settings.logFile = some path →
    fs.leadsTo isDirectory path.parent = true ∧
      ∃ site : Site, site.path = absolutePath fs path ∧ site.Sits fs ∧
        OutOfTheWay site.touches arguments settings fs

section Settings

variable {arguments other : Arguments}

theorem loadSettings_withoutLog (fs : FileSystem)
    (hsame : arguments.withoutLog = other.withoutLog) :
    Settings.SameUnlessBlank (loadSettings fs arguments) (loadSettings fs other) := by
  obtain ⟨source, destination, overrides, settingsFile, logFile, verbose⟩ := arguments
  obtain ⟨source', destination', overrides', settingsFile', logFile', verbose'⟩ := other
  simp only [Arguments.withoutLog, Arguments.mk.injEq, Choices.mk.injEq, and_true] at hsame
  obtain ⟨rfl, rfl, hoverrides, rfl⟩ := hsame
  rw [loadSettings, loadSettings]
  rcases settingsFile with _ | _ | file
  · exact Settings.load_withoutLog fs source _ _ _ hoverrides
  · exact fun _ _ => rfl
  · exact Settings.load_withoutLog fs source _ _ _ hoverrides

/-- Two invocations that differ in what they say about the log are stopped for the same reason, or
both have settings, and these differ in the log only. -/
theorem loadSettings_alike {fs : FileSystem} (hsame : arguments.withoutLog = other.withoutLog)
    (h : LogApart fs arguments) (h' : LogApart fs other) :
    (∃ stop, loadSettings fs arguments = .error stop ∧ loadSettings fs other = .error stop) ∨
      ∃ settings settings', loadSettings fs arguments = .ok settings ∧
        loadSettings fs other = .ok settings' ∧ settings.withoutLog = settings'.withoutLog := by
  have hsettings := loadSettings_withoutLog fs hsame h.level h'.level
  cases hload : loadSettings fs arguments with
  | error stop =>
    cases hload' : loadSettings fs other with
    | error stop' =>
      rw [hload, hload'] at hsettings
      exact Or.inl ⟨stop, rfl, by rw [Except.error.inj hsettings]⟩
    | ok settings' =>
      rw [hload, hload'] at hsettings
      cases hsettings
  | ok settings =>
    cases hload' : loadSettings fs other with
    | error stop' =>
      rw [hload, hload'] at hsettings
      cases hsettings
    | ok settings' =>
      rw [hload, hload'] at hsettings
      exact Or.inr ⟨settings, settings', rfl, rfl, Except.ok.inj hsettings⟩

/-- Without a log nothing depends on what is said about it. -/
theorem quietly_withoutLog (fs : FileSystem) {settings settings' : Settings}
    (harguments : arguments.withoutLog = other.withoutLog)
    (hsettings : settings.withoutLog = settings'.withoutLog) :
    quietly arguments settings fs = quietly other settings' fs := by
  have hboth : quietly arguments.withoutLog settings.withoutLog fs =
      quietly other.withoutLog settings'.withoutLog fs := by rw [harguments, hsettings]
  exact hboth

theorem targetOf_withoutLog {settings settings' : Settings}
    (h : settings.withoutLog = settings'.withoutLog) : targetOf settings = targetOf settings' := by
  have hboth : targetOf settings.withoutLog = targetOf settings'.withoutLog := by rw [h]
  exact hboth

theorem destination_withoutLog (h : arguments.withoutLog = other.withoutLog) :
    arguments.destination = other.destination := by
  have hboth : arguments.withoutLog.destination = other.withoutLog.destination := by rw [h]
  exact hboth

end Settings

section Answers

variable {console : Console} {fs : FileSystem} {arguments : Arguments} {settings : Settings}
  {scope : Scope} {s : Service}

/-- How an invocation answers at the end of its stages. -/
def answerTo (console : Console) (result : Except Interruption Outcome) (s : Service) :
    Response × Service :=
  match result with
  | .ok outcome => showOutcome console s outcome
  | .error interruption => interrupt s interruption

/-- An answer shows nothing of the log and leaves its files alone. -/
theorem answerTo_fst (console : Console) (result : Except Interruption Outcome) (s s' : Service) :
    (answerTo console result s).1 = (answerTo console result s').1 := by
  rcases result with interruption | failure | product <;> rfl

theorem answerTo_disk (console : Console) (result : Except Interruption Outcome) (s : Service) :
    (answerTo console result s).2.disk = s.disk := by
  rcases result with interruption | failure | product <;> rfl

theorem answerTo_loggers (console : Console) (result : Except Interruption Outcome)
    (s : Service) :
    (answerTo console result s).2.loggers = s.loggers := by
  rcases result with interruption | failure | product <;> rfl

/-- The run of an invocation, once its log is open. -/
def generation (arguments : Arguments) (settings : Settings) (opened : Service) :
    Except Interruption Outcome × Service :=
  Generation.conclude surroundings (stages arguments settings) (opened.report programName invoked)

theorem generate_eq (console : Console) (opened : Service) (arguments : Arguments)
    (settings : Settings) :
    generate console opened arguments settings =
      answerTo console (generation arguments settings opened).1
        (generation arguments settings opened).2 := by
  rw [generate, generation]
  rcases Generation.conclude surroundings (stages arguments settings)
    (opened.report programName invoked) with ⟨interruption | outcome, after⟩ <;> rfl

/-- Beside a log that is out of the way an invocation answers as it does without it. -/
theorem generate_quietly (h : OutOfTheWay scope.touched arguments settings fs)
    (hwithin : Within scope fs s) (clock : Binary64) :
    (generate console s arguments settings).1 =
        (answerTo console (quietly arguments settings fs).1 (atFirst fs clock)).1 ∧
      Within scope (quietly arguments settings fs).2.files
        (generate console s arguments settings).2 := by
  have hrun : Corresponds (fun s t => Within scope t.files s) (generation arguments settings s)
      (quietly arguments settings fs) :=
    conclude_quietly h (Service.report_within hwithin programName invoked)
  obtain ⟨hresult, hafter⟩ := hrun
  rw [generate_eq, hresult]
  refine ⟨answerTo_fst _ _ _ _, ?_, ?_⟩
  · rw [answerTo_disk]
    exact hafter.keeps
  · rw [answerTo_loggers]
    exact hafter.owns

/-- A log that is out of the way can be opened. -/
theorem openLog_apart (h : LogApart fs arguments) (hload : loadSettings fs arguments = .ok settings)
    (clock : Binary64) :
    ∃ scope s, openLog (atFirst fs clock) arguments settings = (.ok (), s) ∧
      Within scope fs s ∧ OutOfTheWay scope.touched arguments settings fs := by
  let configuration : Log.Configuration := {
    level := settings.logLevel
    verbose := arguments.choices.verbose
    file := settings.logFile }
  have hopen {s : Service}
      (hconfigure : (atFirst fs clock).configure programName configuration = (s, none)) :
      openLog (atFirst fs clock) arguments settings = (.ok (), s) := by
    rw [openLog]
    split
    · next hgiven => exact absurd hgiven h.given
    · simp only [configuration] at hconfigure
      simp only [hconfigure]
  cases hfile : settings.logFile with
  | none =>
    obtain ⟨s, hconfigure, hwithin⟩ :=
      Service.configure_silent fs clock programName (show configuration.file = none from hfile)
    exact ⟨.silent, s, hopen hconfigure, hwithin, .nothing arguments settings fs⟩
  | some path =>
    obtain ⟨hparent, site, hpath, hsits, hclear⟩ := h.file settings path hload hfile
    obtain ⟨s, hconfigure, hwithin⟩ := Service.configure_site hsits clock programName
      (show configuration.file = some path from hfile) (Nat.le_refl _) hparent hpath
    exact ⟨site.scope fs hsits, s, hopen hconfigure, hwithin, hclear⟩

/-- Once its settings are read, an invocation whose log is apart answers as it does without it, and
leaves the same behind apart from the log. -/
theorem invoke_quietly {words : List Text} (hread : Arguments.read words = .ok arguments)
    (h : LogApart fs arguments) (hload : loadSettings fs arguments = .ok settings)
    (clock : Binary64) :
    (invoke console words (atFirst fs clock)).1 =
        (answerTo console (quietly arguments settings fs).1 (atFirst fs clock)).1 ∧
      ∃ scope : Scope, OutOfTheWay scope.touched arguments settings fs ∧
        SameOutside scope.touched (quietly arguments settings fs).2.files
          (invoke console words (atFirst fs clock)).2.disk.files := by
  obtain ⟨scope, s, hopen, hwithin, hclear⟩ := openLog_apart h hload clock
  have hrun : invoke console words (atFirst fs clock) = generate console s arguments settings := by
    rw [invoke, hread]
    have hfirst : loadSettings (atFirst fs clock).disk.files arguments = .ok settings := hload
    simp only [hfirst, hopen]
  obtain ⟨hanswer, hafter⟩ := generate_quietly hclear hwithin clock
  rw [hrun]
  exact ⟨hanswer, scope, hclear, scope.outside hafter.keeps⟩

/-- How an invocation answers that is stopped before it has its settings. -/
def answerWithoutSettings : Stop → Response
  | .failure _ => { ending := .answered 2 }
  | .interruption interruption => { ending := .interrupted interruption }

/-- Without settings there is no run, and no log. -/
theorem invoke_without_settings {words : List Text} (hread : Arguments.read words = .ok arguments)
    {stop : Stop} (hload : loadSettings fs arguments = .error stop) (clock : Binary64) :
    (invoke console words (atFirst fs clock)).1 = answerWithoutSettings stop ∧
      (invoke console words (atFirst fs clock)).2.disk.files = fs := by
  have hfirst : loadSettings (atFirst fs clock).disk.files arguments = .error stop := hload
  rw [invoke, hread]
  simp only [hfirst]
  cases stop with
  | failure failure => exact ⟨rfl, rfl⟩
  | interruption interruption => exact ⟨rfl, rfl⟩

end Answers

/-- What is said about the log never influences what is generated: on every console, two invocations
that differ in that alone answer the same, and leave the same in the generated file. -/
theorem invoke_indifferent (console : Console) {fs : FileSystem} {words words' : List Text}
    {arguments arguments' : Arguments} (hread : Arguments.read words = .ok arguments)
    (hread' : Arguments.read words' = .ok arguments')
    (hsame : arguments.withoutLog = arguments'.withoutLog) (h : LogApart fs arguments)
    (h' : LogApart fs arguments') (clock clock' : Binary64) :
    (invoke console words (atFirst fs clock)).1 = (invoke console words' (atFirst fs clock')).1 ∧
      (∀ settings, loadSettings fs arguments = .ok settings →
        arguments.destination.isSome = true →
        (invoke console words (atFirst fs clock)).2.disk.files.readFile (targetOf settings) =
          (invoke console words' (atFirst fs clock')).2.disk.files.readFile (targetOf settings)) ∧
      ∀ stop, loadSettings fs arguments = .error stop →
        (invoke console words (atFirst fs clock)).2.disk.files = fs ∧
          (invoke console words' (atFirst fs clock')).2.disk.files = fs := by
  rcases loadSettings_alike hsame h h' with
    ⟨stop, hload, hload'⟩ | ⟨settings, settings', hload, hload', halike⟩
  · obtain ⟨hanswer, hfiles⟩ := invoke_without_settings hread hload clock
    obtain ⟨hanswer', hfiles'⟩ := invoke_without_settings hread' hload' clock'
    refine ⟨hanswer.trans hanswer'.symm, ?_, fun _ _ => ⟨hfiles, hfiles'⟩⟩
    rw [hload]
    rintro settings ⟨⟩
  · -- A run without a log is the same for both, and each does as that one does.
    have hquiet := quietly_withoutLog fs hsame halike
    obtain ⟨hanswer, scope, hclear, houtside⟩ := invoke_quietly hread h hload clock
    obtain ⟨hanswer', scope', hclear', houtside'⟩ := invoke_quietly hread' h' hload' clock'
    rw [hload]
    refine ⟨?_, ?_, ?_⟩
    · rw [hanswer, hanswer', hquiet]
      exact answerTo_fst _ _ _ _
    · rintro _ ⟨⟩ hdestination
      have hway := hclear.writes hdestination _ (targetOf_mem_writeWays settings)
      have hdestination' : arguments'.destination.isSome = true := by
        rwa [← destination_withoutLog hsame]
      have hway' := hclear'.writes hdestination' _ (targetOf_mem_writeWays settings')
      -- Both have in the generated file what a run without a log leaves there.
      rw [← targetOf_withoutLog halike] at hway'
      rw [houtside.readFile_eq hway, houtside'.readFile_eq hway', hquiet]
    · rintro stop ⟨⟩

section Examples

open Generation (docsWith plainDocument plainSettings)

def plainWords : List Text := [.of "docs", .of "out"]

def plainArguments : Arguments where
  source := plainSettings.source
  destination := some plainSettings.destination
  choices := {}

def loggedWords : List Text :=
  plainWords ++ [.of "--log-file=run.log", .of "--log-level=debug", .of "-v"]

def loggedArguments : Arguments :=
  { plainArguments with
    choices :=
      { overrides := { logLevel := some (.of "debug"), logFile := some logPath }
        logFile := some (some logPath)
        verbose := true } }

def loggedSettings : Settings :=
  { plainSettings with logLevel := .of "DEBUG", logFile := some logPath }

def oneDocument : FileSystem := docsWith [(.of "a.md", plainDocument)] []

theorem invoke_indifferent_oneDocument :
    (run loggedWords (atFirst oneDocument (.finite false 0 0))).1 =
        { output := .of "Generated 1 document(s) -> out/docs.go\n", ending := .ran 0 } ∧
      (run plainWords (atFirst oneDocument (.finite false 0 0))).1 =
        (run loggedWords (atFirst oneDocument (.finite false 0 0))).1 := by
  have hplain : loadSettings oneDocument plainArguments = .ok plainSettings := by decide +kernel
  have hlogged : loadSettings oneDocument loggedArguments = .ok loggedSettings := by
    decide +kernel
  have hsits : logSite.Sits oneDocument := sits_logSite (by decide +kernel)
  have hclear : OutOfTheWay logSite.touches loggedArguments loggedSettings oneDocument := by
    refine ⟨by decide +kernel, fun _ => by decide +kernel, fun directory hdirectory _ => ?_⟩
    have hplaces : FileSystem.placesOf oneDocument loggedSettings.source = [[.of "docs"]] := by
      decide +kernel
    obtain rfl := List.mem_singleton.mp (hplaces ▸ hdirectory)
    exact Site.dropLast_ne (by decide) (by decide) (by decide)
  have hread : Arguments.read plainWords = .ok plainArguments := by decide +kernel
  have hread' : Arguments.read loggedWords = .ok loggedArguments := by decide +kernel
  refine ⟨by decide +kernel, (invoke_indifferent consoleLine hread hread' rfl ?_ ?_ _ _).1⟩
  · refine ⟨by rw [hplain]; nofun, by decide, fun settings path hload hfile => ?_⟩
    rw [hplain] at hload
    cases hload
    cases hfile
  · refine ⟨by rw [hlogged]; nofun, by decide, fun settings path hload hfile => ?_⟩
    rw [hlogged] at hload
    cases hload
    cases hfile
    exact ⟨by decide +kernel, logSite, by decide +kernel, hsits, hclear⟩

/-- Where a path stands, and where it leads if that is a link. -/
def endsOf (fs : FileSystem) (path : Path) : List Location :=
  [false, true].filterMap fun followLast =>
    (fs.resolve followLast path).toOption.map FileSystem.Place.location

/-- Neither the log file nor a backup of it is one of the paths, be it through a link. -/
def NoneOf (paths : List Path) (fs : FileSystem) : Prop :=
  ∀ path ∈ paths, ∀ number ∈ List.range (Log.maxBackups + 1),
    ∀ location ∈ endsOf fs (Log.numbered logPath number), location ∉ endsOf fs path

instance (paths : List Path) (fs : FileSystem) : Decidable (NoneOf paths fs) :=
  inferInstanceAs (Decidable (∀ path ∈ paths, ∀ number ∈ List.range (Log.maxBackups + 1),
    ∀ location ∈ endsOf fs (Log.numbered logPath number), location ∉ endsOf fs path))

/-- In the source directory stands a link to what would be below the log file. -/
def linkedBelowLog : FileSystem := docsWith [(.of "x", .link (.of "../run.log/y"))] []

/-- That the log is none of the paths which an invocation uses is not enough: a link in the source
directory can lead through it. Nor is it enough that the words differ in a flag only, since a flag
may change what the separator belongs to. -/
theorem invoke_differs_linkedBelowLog :
    (Arguments.read plainWords = .ok plainArguments ∧
      Arguments.read loggedWords = .ok loggedArguments ∧
      loadSettings linkedBelowLog plainArguments = .ok plainSettings ∧
      loadSettings linkedBelowLog loggedArguments = .ok loggedSettings ∧
      linkedBelowLog.leadsTo isDirectory logPath.parent = true ∧
      (({ files := linkedBelowLog } : OpenFiles).openAppend logPath).isOk = true ∧
      (∀ words ∈ [plainWords, loggedWords], ∀ files ∈
          [linkedBelowLog, (run words (atFirst linkedBelowLog (.finite false 0 0))).2.disk.files],
        NoneOf (readWays plainSettings linkedBelowLog ++ writeWays plainSettings) files) ∧
      (run plainWords (atFirst linkedBelowLog (.finite false 0 0))).1.ending = .ran 0 ∧
      (run loggedWords (atFirst linkedBelowLog (.finite false 0 0))).1.ending = .ran 1) ∧
    (run [.of "docs", .of "--", .of "--"] (atFirst oneDocument (.finite false 0 0))).1.ending =
        .interrupted (.missingPath .destination) ∧
      (run [.of "docs", .of "-v", .of "--", .of "--"]
        (atFirst oneDocument (.finite false 0 0))).1.ending = .ran 0 := by
  decide +kernel

end Examples

end CommandLine

end HelpText
