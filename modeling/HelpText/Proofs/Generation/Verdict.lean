import HelpText.Proofs.Generation.Conditions

/-!
How a run ends. `Verdict` says it stage by stage, the first stage that fails being the one that
counts; `Escapes` lists what no stage foresees. A run that meets nothing of the second kind ends as
the first says, and every other run is interrupted.
-/

namespace HelpText

namespace Generation

/-- The outcome of a run and the files that it leaves: the failure of the first stage that fails, or
the product of all of them. -/
inductive Verdict (settings : Settings) (fs : FileSystem) : Outcome → FileSystem → Prop
  | unlisted {fault : FileSystem.Fault} (h : fs.listFiles settings.source = .error fault) :
      Verdict settings fs (.error (.sourceDirectory settings.source fault)) fs
  | unreadable {before after : List Path} {path : Path} {fault : FileSystem.Fault}
      (hpaths : Processed settings fs (before ++ path :: after))
      (hbefore : ∀ other ∈ before, ∃ text, fs.readText other = .ok text)
      (h : fs.readText path = .error (.access fault)) :
      Verdict settings fs (.error (.sourceFile path fault)) fs
  | undecodable {before after : List Path} {path : Path} {fault : Utf8.Fault}
      (hpaths : Processed settings fs (before ++ path :: after))
      (hbefore : ∀ other ∈ before, ∃ text, fs.readText other = .ok text)
      (h : fs.readText path = .error (.encoding fault)) :
      Verdict settings fs (.error (.sourceText path fault)) fs
  | shared {sources : List Source} (hload : Loaded settings fs sources)
      (h : ¬NamesPass settings sources) :
      Verdict settings fs (.error (.duplicateNames (sharedNames settings sources))) fs
  | unlicensed {sources : List Source} {asked file : Path} {fault : FileSystem.ReadFault}
      (hload : Loaded settings fs sources) (hnames : NamesPass settings sources)
      (hasked : License.asked settings.license = some asked)
      (hfile : fs.expandHome asked = .ok file) (h : fs.readText file = .error fault) :
      Verdict settings fs (.error (.license file fault)) fs
  | unwritten {sources : List Source} {license : Text} {fault : FileSystem.Fault}
      (hload : Loaded settings fs sources) (hnames : NamesPass settings sources)
      (hlicense : License.Gives fs settings.license license)
      (h : (Output.prepared fs settings.destination).writeFile (targetOf settings)
        (Utf8.encode (textOf settings license sources)) = .error fault) :
      Verdict settings fs (.error (.output (targetOf settings) fault))
        (Output.prepared fs settings.destination)
  | written {sources : List Source} {license : Text} {opened finished : FileSystem}
      (hload : Loaded settings fs sources) (hnames : NamesPass settings sources)
      (hlicense : License.Gives fs settings.license license)
      (h : (Output.prepared fs settings.destination).writeFile (targetOf settings)
        (Utf8.encode (textOf settings license sources)) = .ok opened)
      (hfile : finished.readFile (targetOf settings) =
        .ok (Utf8.encode (textOf settings license sources))) :
      Verdict settings fs
        (.ok { documents := sources.map (documentOf settings), target := targetOf settings })
        finished

/-- The faults that no stage turns into its failure: a NUL in a path, an unknown home directory and
a path for the generated file that is too long to be looked up. -/
inductive Escapes (settings : Settings) (fs : FileSystem) : FileSystem.Fault → Prop
  | listing (h : fs.listFiles settings.source = .error .nullByte) : Escapes settings fs .nullByte
  | reading {before after : List Path} {path : Path}
      (hpaths : Processed settings fs (before ++ path :: after))
      (hbefore : ∀ other ∈ before, ∃ text, fs.readText other = .ok text)
      (h : '\x00' ∈ path.text) : Escapes settings fs .nullByte
  | home {sources : List Source} {asked : Path} {fault : FileSystem.Fault}
      (hload : Loaded settings fs sources) (hnames : NamesPass settings sources)
      (hasked : License.asked settings.license = some asked)
      (h : fs.expandHome asked = .error fault) : Escapes settings fs fault
  | license {sources : List Source} {asked file : Path}
      (hload : Loaded settings fs sources) (hnames : NamesPass settings sources)
      (hasked : License.asked settings.license = some asked)
      (hfile : fs.expandHome asked = .ok file) (h : '\x00' ∈ file.text) :
      Escapes settings fs .nullByte
  | writing {sources : List Source} {license : Text} {fault : FileSystem.Fault}
      (hload : Loaded settings fs sources) (hnames : NamesPass settings sources)
      (hlicense : License.Gives fs settings.license license)
      (h : Output.Blocked fs settings.destination (targetOf settings) fault) :
      Escapes settings fs fault

theorem ofFault_cases (foreseen : FileSystem.Fault → Failure) (fault : FileSystem.Fault) :
    Stop.ofFault foreseen fault = .failure (foreseen fault) ∨
      Stop.ofFault foreseen fault = .interruption (.path fault) ∧ fault.isRefusal = false := by
  rw [Stop.ofFault]
  by_cases h : fault.isRefusal = true
  · exact Or.inl (if_pos h)
  · exact Or.inr ⟨if_neg h, Bool.eq_false_iff.mpr h⟩

theorem error_ofFault_cases (foreseen : FileSystem.Fault → Failure) (fault : FileSystem.Fault) :
    (Except.error (Stop.ofFault foreseen fault) : Except Stop Product) =
        Except.mapError Stop.failure (.error (foreseen fault)) ∨
      ∃ shown, (Except.error (Stop.ofFault foreseen fault) : Except Stop Product) =
        .error (.interruption (.path shown)) := by
  rcases ofFault_cases foreseen fault with h | ⟨h, -⟩
  · exact Or.inl (congrArg Except.error h)
  · exact Or.inr ⟨fault, congrArg Except.error h⟩

section Stops

variable {settings : Settings} {fs : FileSystem} {sources : List Source} {license : Text}

theorem work_of_unlisted {fault : FileSystem.Fault}
    (h : fs.listFiles settings.source = .error fault) :
    work settings fs = (fs, .error (.ofFault (.sourceDirectory settings.source) fault)) := by
  have hload := (load_eq_error_iff settings fs _).mpr (Or.inl ⟨fault, h, rfl⟩)
  exact work_of_inputs_error (inputs_of_load_error hload)

theorem work_of_unread {before after : List Path} {path : Path} {fault : FileSystem.ReadFault}
    (hpaths : Processed settings fs (before ++ path :: after))
    (hbefore : ∀ other ∈ before, ∃ text, fs.readText other = .ok text)
    (h : fs.readText path = .error fault) :
    work settings fs = (fs, .error (Source.stopOf path fault)) := by
  have hload := (load_eq_error_iff settings fs _).mpr
    (Or.inr ⟨before, path, after, fault, hpaths, hbefore, h, rfl⟩)
  exact work_of_inputs_error (inputs_of_load_error hload)

theorem work_of_license_error {stop : Stop} (hload : Loaded settings fs sources)
    (hnames : NamesPass settings sources)
    (h : License.resolve fs settings.license = .error stop) :
    work settings fs = (fs, .error stop) := by
  have hinputs := (inputs_of_loaded hload).2 hnames
  rw [h] at hinputs
  exact work_of_inputs_error hinputs

theorem work_of_unlicensed {asked file : Path} {fault : FileSystem.ReadFault}
    (hload : Loaded settings fs sources) (hnames : NamesPass settings sources)
    (hasked : License.asked settings.license = some asked)
    (hfile : fs.expandHome asked = .ok file) (h : fs.readText file = .error fault) :
    work settings fs = (fs, .error (License.stopOf file fault)) := by
  have hlicense := (License.resolve_eq_error_iff fs settings.license _).mpr
    ⟨asked, hasked, Or.inr ⟨file, fault, hfile, h, rfl⟩⟩
  exact work_of_license_error hload hnames hlicense

theorem work_of_blocked (hload : Loaded settings fs sources) (hnames : NamesPass settings sources)
    (hlicense : License.Gives fs settings.license license) {fault : FileSystem.Fault}
    (h : Output.Blocked fs settings.destination (targetOf settings) fault) :
    (work settings fs).2 = .error (.interruption (.path fault)) := by
  have hwrite := Output.write_of_blocked Output.fileMode (textOf settings license sources) h
  rw [work_of_gives hload hnames hlicense]
  rcases hresult : Output.write fs settings.destination settings.outputName Output.fileMode
    (textOf settings license sources) with ⟨files, stop | target⟩
  · rw [hresult] at hwrite
    exact congrArg Except.error (Except.error.inj hwrite)
  · rw [hresult] at hwrite
    cases hwrite

theorem work_of_unwritten (hload : Loaded settings fs sources)
    (hnames : NamesPass settings sources) (hlicense : License.Gives fs settings.license license)
    (hfree : ∀ fault, ¬Output.Blocked fs settings.destination (targetOf settings) fault)
    {fault : FileSystem.Fault}
    (h : (Output.prepared fs settings.destination).writeFile (targetOf settings)
      (Utf8.encode (textOf settings license sources)) = .error fault) :
    work settings fs = (Output.prepared fs settings.destination,
      .error (.failure (.output (targetOf settings) fault))) := by
  have hwrite := (Output.write_of_not_blocked Output.fileMode hfree).1 fault h
  rw [work_of_gives hload hnames hlicense, hwrite]
  rfl

theorem work_of_written (hload : Loaded settings fs sources) (hnames : NamesPass settings sources)
    (hlicense : License.Gives fs settings.license license)
    (hfree : ∀ fault, ¬Output.Blocked fs settings.destination (targetOf settings) fault)
    {opened : FileSystem}
    (h : (Output.prepared fs settings.destination).writeFile (targetOf settings)
      (Utf8.encode (textOf settings license sources)) = .ok opened) :
    ∃ finished, work settings fs = (finished,
        .ok { documents := sources.map (documentOf settings), target := targetOf settings }) ∧
      finished.readFile (targetOf settings) =
        .ok (Utf8.encode (textOf settings license sources)) := by
  obtain ⟨finished, hwrite, hread⟩ :=
    (Output.write_of_not_blocked Output.fileMode hfree).2 opened h
  refine ⟨finished, ?_, hread⟩
  rw [work_of_gives hload hnames hlicense, hwrite]
  rfl

end Stops

theorem work_of_escapes {settings : Settings} {fs : FileSystem} {fault : FileSystem.Fault}
    (h : Escapes settings fs fault) :
    (work settings fs).2 = .error (.interruption (.path fault)) := by
  cases h with
  | listing h =>
    rw [work_of_unlisted h]
    rfl
  | reading hpaths hbefore h =>
    rw [work_of_unread hpaths hbefore (FileSystem.readText_of_null h)]
    rfl
  | home hload hnames hasked h =>
    have hlicense := (License.resolve_eq_error_iff fs settings.license _).mpr
      ⟨_, hasked, Or.inl ⟨_, h, rfl⟩⟩
    rw [work_of_license_error hload hnames hlicense]
  | license hload hnames hasked hfile h =>
    rw [work_of_unlicensed hload hnames hasked hfile (FileSystem.readText_of_null h)]
    rfl
  | writing hload hnames hlicense h => exact work_of_blocked hload hnames hlicense h

/-- A run ends as its verdict says, unless a fault gets in its way that no stage foresees. -/
theorem work_of_verdict {settings : Settings} {fs after : FileSystem} {outcome : Outcome}
    (h : Verdict settings fs outcome after) :
    (work settings fs).2 = outcome.mapError Stop.failure ∨
      ∃ fault, (work settings fs).2 = .error (.interruption (.path fault)) := by
  cases h with
  | unlisted h =>
    rw [work_of_unlisted h]
    exact error_ofFault_cases _ _
  | unreadable hpaths hbefore h =>
    rw [work_of_unread hpaths hbefore h]
    exact error_ofFault_cases _ _
  | undecodable hpaths hbefore h =>
    rw [work_of_unread hpaths hbefore h]
    exact Or.inl rfl
  | shared hload h =>
    rw [work_of_inputs_error ((inputs_of_loaded hload).1 h)]
    exact Or.inl rfl
  | @unlicensed sources asked file fault hload hnames hasked hfile h =>
    rw [work_of_unlicensed hload hnames hasked hfile h]
    cases fault with
    | access fault => exact error_ofFault_cases (fun fault => .license file (.access fault)) fault
    | encoding fault => exact Or.inl rfl
  | unwritten hload hnames hlicense h =>
    rcases exists_or_forall_not
        (Output.Blocked fs settings.destination (targetOf settings)) with ⟨fault, hblocked⟩ | hfree
    · exact Or.inr ⟨fault, work_of_blocked hload hnames hlicense hblocked⟩
    · rw [work_of_unwritten hload hnames hlicense hfree h]
      exact Or.inl rfl
  | written hload hnames hlicense h =>
    rcases exists_or_forall_not
        (Output.Blocked fs settings.destination (targetOf settings)) with ⟨fault, hblocked⟩ | hfree
    · exact Or.inr ⟨fault, work_of_blocked hload hnames hlicense hblocked⟩
    · obtain ⟨finished, hwork, -⟩ := work_of_written hload hnames hlicense hfree h
      rw [hwork]
      exact Or.inl rfl

theorem work_cases (settings : Settings) (fs : FileSystem) :
    (∃ fault, Escapes settings fs fault) ∨
      ∃ outcome, Verdict settings fs outcome (work settings fs).1 ∧
        (work settings fs).2 = outcome.mapError Stop.failure := by
  -- One stage after the other: where it fails, its fault is foreseen or not.
  cases hsources : Source.load fs settings.source settings.extension settings.sort with
  | error stop =>
    rw [work_of_inputs_error (inputs_of_load_error hsources)]
    rcases (load_eq_error_iff settings fs stop).mp hsources with
      ⟨fault, hlisting, rfl⟩ | ⟨before, path, after, fault, hpaths, hbefore, hread, rfl⟩
    · rcases ofFault_cases (.sourceDirectory settings.source) fault with hstop | ⟨-, hfault⟩
      · exact Or.inr ⟨_, .unlisted hlisting, congrArg Except.error hstop⟩
      · rcases FileSystem.listFiles_fault hlisting with rfl | hrefusal
        · exact Or.inl ⟨_, .listing hlisting⟩
        · rw [hrefusal] at hfault
          cases hfault
    · cases fault with
      | encoding fault => exact Or.inr ⟨_, .undecodable hpaths hbefore hread, rfl⟩
      | access fault =>
        rcases ofFault_cases (.sourceFile path) fault with hstop | ⟨-, hfault⟩
        · exact Or.inr ⟨_, .unreadable hpaths hbefore hread, congrArg Except.error hstop⟩
        · exact Or.inl ⟨_, .reading hpaths hbefore (FileSystem.null_of_readText hread hfault)⟩
  | ok sources =>
    have hload := (load_eq_ok_iff settings fs sources).mp hsources
    by_cases hnames : NamesPass settings sources
    · cases hresolve : License.resolve fs settings.license with
      | error stop =>
        rw [work_of_license_error hload hnames hresolve]
        obtain ⟨asked, hasked, ⟨fault, hhome, rfl⟩ | ⟨file, fault, hfile, hread, rfl⟩⟩ :=
          (License.resolve_eq_error_iff fs settings.license stop).mp hresolve
        · exact Or.inl ⟨fault, .home hload hnames hasked hhome⟩
        · cases fault with
          | encoding fault => exact Or.inr ⟨_, .unlicensed hload hnames hasked hfile hread, rfl⟩
          | access fault =>
            rcases ofFault_cases (fun fault => .license file (.access fault)) fault with
              hstop | ⟨-, hfault⟩
            · exact Or.inr
                ⟨_, .unlicensed hload hnames hasked hfile hread, congrArg Except.error hstop⟩
            · exact Or.inl ⟨_, .license hload hnames hasked hfile
                (FileSystem.null_of_readText hread hfault)⟩
      | ok license =>
        have hlicense := (License.resolve_eq_ok_iff fs settings.license license.text).mp
          ⟨license, hresolve, rfl⟩
        rcases exists_or_forall_not
          (Output.Blocked fs settings.destination (targetOf settings)) with
          ⟨fault, hblocked⟩ | hfree
        · exact Or.inl ⟨fault, .writing hload hnames hlicense hblocked⟩
        · cases hopen : (Output.prepared fs settings.destination).writeFile (targetOf settings)
            (Utf8.encode (textOf settings license.text sources)) with
          | error fault =>
            rw [work_of_unwritten hload hnames hlicense hfree hopen]
            exact Or.inr ⟨_, .unwritten hload hnames hlicense hopen, rfl⟩
          | ok opened =>
            obtain ⟨finished, hwork, hread⟩ := work_of_written hload hnames hlicense hfree hopen
            rw [hwork]
            exact Or.inr ⟨_, .written hload hnames hlicense hopen hread, rfl⟩
    · rw [work_of_inputs_error ((inputs_of_loaded hload).1 hnames)]
      exact Or.inr ⟨_, .shared hload hnames, rfl⟩

theorem run_of_outcome {settings : Settings} {s : Journal} {outcome : Outcome}
    (h : (work settings s.files).2 = outcome.mapError Stop.failure) :
    (run journal settings s).1 = .ok outcome := by
  rw [(run_journal settings s).1, h]
  cases outcome <;> rfl

theorem run_of_interruption {settings : Settings} {s : Journal} {interruption : Interruption}
    (h : (work settings s.files).2 = .error (.interruption interruption)) :
    (run journal settings s).1 = .error interruption := by
  rw [(run_journal settings s).1, h]

/-- A run that returns has met nothing unforeseen, and returns the verdict of its stages. -/
theorem verdict_of_run {settings : Settings} {s : Journal} {outcome : Outcome}
    (h : (run journal settings s).1 = .ok outcome) :
    Verdict settings s.files outcome (run journal settings s).2.files := by
  rcases work_cases settings s.files with ⟨fault, hfault⟩ | ⟨found, hverdict, hfound⟩
  · rw [run_of_interruption (work_of_escapes hfault)] at h
    cases h
  · rw [run_of_outcome hfound] at h
    obtain rfl : found = outcome := Except.ok.inj h
    rwa [(run_journal settings s).2]

/-- What a run returns is the failure of the first stage that fails, or the product of all stages.
With a failure come no documents and no path. -/
theorem run_outcome {settings : Settings} {s : Journal} {outcome : Outcome}
    (h : (run journal settings s).1 = .ok outcome) :
    Verdict settings s.files outcome (run journal settings s).2.files ∧
      (∀ other after, Verdict settings s.files other after → other = outcome) ∧
      (∀ failure, outcome = .error failure → outcome.exitStatus = 1 ∧ outcome.documents = [] ∧
        outcome.target? = none ∧ outcome.failure? = some failure) ∧
      ∀ product, outcome = .ok product → outcome.exitStatus = 0 ∧
        outcome.documents = product.documents ∧ outcome.target? = some product.target ∧
        outcome.failure? = none := by
  refine ⟨verdict_of_run h, ?_, ?_, ?_⟩
  · intro other after hother
    rcases work_of_verdict hother with hwork | ⟨fault, hwork⟩
    · rw [run_of_outcome hwork] at h
      exact Except.ok.inj h
    · rw [run_of_interruption hwork] at h
      cases h
  · rintro failure rfl
    exact ⟨rfl, rfl, rfl, rfl⟩
  · rintro product rfl
    exact ⟨rfl, rfl, rfl, rfl⟩

def strictSettings : Settings where
  source := { names := [.of "docs"] }
  destination := { names := [.of "out"] }
  license := some (.of "L")
  sort := false
  strictNames := true

def lenientSettings : Settings := { strictSettings with strictNames := false }

/-- One document with this content, and what else is there. -/
def filesWith (content : List UInt8) (others : List (Location × Entry)) : FileSystem where
  home := { names := [.of "home"] }
  entries := [([.of "docs"], .directory Entry.newDirectoryMode),
    ([.of "docs", .of "a.md"], .file content Entry.newFileMode)] ++ others

/-- The first document is no UTF-8, two others share a name, there is no license file, and a file
stands where the directory is to be. -/
def troubled : Journal where
  files := filesWith [0xff]
    [([.of "docs", .of "b.md"], .file [] Entry.newFileMode),
      ([.of "docs", .of "b-.md"], .file [] Entry.newFileMode),
      ([.of "out"], .file [] Entry.newFileMode)]

def untroubled : Journal where
  files := filesWith (Utf8.encode (.of "## T\nOne line.\n"))
    [([.of "L"], .file [] Entry.newFileMode)]

theorem run_outcome_troubled :
    (∀ other after, Verdict strictSettings troubled.files other after →
        other = .error (.sourceText { names := [.of "docs", .of "a.md"] }
          { reason := .invalidStart, start := 0, byte := 0xff, length := 1 })) ∧
      ∃ product after, Verdict strictSettings untroubled.files (.ok product) after := by
  have hfailed : (run journal strictSettings troubled).1 =
      .ok (.error (.sourceText { names := [.of "docs", .of "a.md"] }
        { reason := .invalidStart, start := 0, byte := 0xff, length := 1 })) := by
    decide +kernel
  have hdone : (run journal strictSettings untroubled).1 =
      .ok (.ok
        { documents := [Document.parse false (.of "a.md") (.of "## T\nOne line.\n")]
          target := targetOf strictSettings }) := by
    decide +kernel
  exact ⟨(run_outcome hfailed).2.1, _, _, (run_outcome hdone).1⟩

/-- A run is interrupted by just the faults that no stage foresees. Every other run returns the
outcome of its stages. -/
theorem run_eq_error_iff (settings : Settings) (s : Journal) :
    (∀ interruption, (run journal settings s).1 = .error interruption ↔
      ∃ fault, Escapes settings s.files fault ∧ interruption = .path fault) ∧
      ((∀ fault, ¬Escapes settings s.files fault) ↔
        ∃ outcome, (run journal settings s).1 = .ok outcome ∧
          Verdict settings s.files outcome (run journal settings s).2.files) := by
  constructor
  · intro interruption
    constructor
    · intro h
      rcases work_cases settings s.files with ⟨fault, hfault⟩ | ⟨outcome, -, houtcome⟩
      · rw [run_of_interruption (work_of_escapes hfault)] at h
        exact ⟨fault, hfault, (Except.error.inj h).symm⟩
      · rw [run_of_outcome houtcome] at h
        cases h
    · rintro ⟨fault, hfault, rfl⟩
      exact run_of_interruption (work_of_escapes hfault)
  · constructor
    · intro hnone
      rcases work_cases settings s.files with ⟨fault, hfault⟩ | ⟨outcome, hverdict, houtcome⟩
      · exact absurd hfault (hnone fault)
      · refine ⟨outcome, run_of_outcome houtcome, ?_⟩
        rwa [(run_journal settings s).2]
    · rintro ⟨outcome, houtcome, -⟩ fault hfault
      rw [run_of_interruption (work_of_escapes hfault)] at houtcome
      cases houtcome

/-- A name for the generated file that no system allows is not reported as a failure to write it:
whether the file was there before is asked too early. -/
theorem run_interrupted_of_long_name :
    (run journal { strictSettings with outputName := List.replicate 256 'n' } untroubled).1 =
        .error (.path (.system .nameTooLong (.of "out/" ++ List.replicate 256 'n'))) ∧
      ¬∀ (settings : Settings) (s : Journal),
        ∃ outcome, (run journal settings s).1 = .ok outcome := by
  have hrun : (run journal { strictSettings with outputName := List.replicate 256 'n' }
      untroubled).1 =
      .error (.path (.system .nameTooLong (.of "out/" ++ List.replicate 256 'n'))) := by
    decide +kernel
  refine ⟨hrun, fun hreturns => ?_⟩
  obtain ⟨outcome, houtcome⟩ := hreturns _ _
  rw [hrun] at houtcome
  cases houtcome

end Generation

end HelpText
