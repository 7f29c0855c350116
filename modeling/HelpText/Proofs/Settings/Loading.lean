import HelpText.Proofs.FileSystem.Faults
import HelpText.Proofs.Settings.Keys

/-!
Loading in its parts: finding the file, reading its rows, merging them into the defaults and
checking what came out. For each part it is said when it succeeds and what it gives then.
-/

namespace HelpText

section Results

variable {ε ε' α β : Type} {first : Except ε α} {next : α → Except ε β}

theorem bind_eq_ok_iff {b : β} :
    first >>= next = .ok b ↔ ∃ a, first = .ok a ∧ next a = .ok b := by
  cases first with
  | error fault => simp [Bind.bind, Except.bind]
  | ok a => simp [Bind.bind, Except.bind]

theorem bind_eq_error_iff {fault : ε} :
    first >>= next = .error fault ↔
      first = .error fault ∨ ∃ a, first = .ok a ∧ next a = .error fault := by
  cases first with
  | error fault => simp [Bind.bind, Except.bind]
  | ok a => simp [Bind.bind, Except.bind]

theorem mapError_eq_ok_iff {f : ε → ε'} {a : α} : first.mapError f = .ok a ↔ first = .ok a := by
  cases first <;> simp [Except.mapError]

theorem mapError_eq_error_iff {f : ε → ε'} {fault : ε'} :
    first.mapError f = .error fault ↔ ∃ cause, first = .error cause ∧ f cause = fault := by
  cases first <;> simp [Except.mapError]

end Results

namespace Settings

variable {fs : FileSystem} {asked : Option Path} {base path : Path} {rows merged : Rows}

/-- The file at a path is UTF-8 text, and that is a document with these rows. -/
def FileHolds (fs : FileSystem) (path : Path) (rows : Rows) : Prop :=
  ∃ bytes t, fs.readFile path = .ok bytes ∧ Utf8.decode bytes = .ok t ∧ Toml.read t = .ok rows

theorem pathExists_of_readFile {bytes : List UInt8} (h : fs.readFile path = .ok bytes) :
    fs.pathExists path = .ok true := by
  rw [FileSystem.readFile] at h
  rw [FileSystem.pathExists, FileSystem.test]
  cases hentry : fs.entry? path with
  | ok entry => rfl
  | error fault =>
    rw [hentry] at h
    cases h

theorem readRows_eq_ok_iff : readRows fs path = .ok rows ↔ FileHolds fs path rows := by
  rw [readRows, FileHolds]
  cases hfile : fs.readFile path with
  | error fault =>
    constructor
    · intro h
      split at h
      · cases h
      · cases h
      · next heq => cases heq
    · intro h
      obtain ⟨bytes, t, hbytes, -⟩ := h
      cases hbytes
  | ok bytes =>
    simp only [Except.ok.injEq, exists_and_left, exists_eq_left']
    cases hdecode : Utf8.decode bytes with
    | error fault => simp
    | ok t =>
      simp only [Except.ok.injEq, exists_eq_left']
      cases hread : Toml.read t with
      | ok rows => simp
      | error fault => cases fault <;> simp

/-- The rows that settings are taken from: those of the file, or none where no file was asked for
and none is there. -/
inductive UsedRows (fs : FileSystem) (asked : Option Path) (base : Path) : Rows → Prop
  | file {path : Path} {rows : Rows} (hpath : filePath fs asked base = .ok path)
      (h : FileHolds fs path rows) : UsedRows fs asked base rows
  | none {path : Path} (hpath : filePath fs asked base = .ok path) (hasked : asked = none)
      (h : fs.pathExists path = .ok false) : UsedRows fs asked base []

theorem UsedRows.unique {other : Rows} (h : UsedRows fs asked base rows)
    (h' : UsedRows fs asked base other) : other = rows := by
  cases h with
  | file hpath h =>
    obtain ⟨bytes, t, hbytes, ht, hrows⟩ := h
    cases h' with
    | file hpath' h' =>
      obtain ⟨bytes', t', hbytes', ht', hrows'⟩ := h'
      cases hpath.symm.trans hpath'
      cases hbytes.symm.trans hbytes'
      cases ht.symm.trans ht'
      exact Except.ok.inj (hrows'.symm.trans hrows)
    | none hpath' _ h' =>
      cases hpath.symm.trans hpath'
      cases (pathExists_of_readFile hbytes).symm.trans h'
  | none hpath _ h =>
    cases h' with
    | file hpath' h' =>
      obtain ⟨bytes, -, hbytes, -⟩ := h'
      cases hpath.symm.trans hpath'
      cases (pathExists_of_readFile hbytes).symm.trans h
    | none => rfl

/-- No table of the rows that are used has a key twice. -/
theorem UsedRows.keysDiffer (h : UsedRows fs asked base rows) : Toml.KeysDiffer (.table rows) := by
  cases h with
  | file _ h =>
    obtain ⟨bytes, t, -, -, hread⟩ := h
    exact Toml.keysDiffer_of_read hread
  | none => exact Toml.keysDiffer_nil

theorem mergeRows_nil (path : Text) (base : Rows) : mergeRows path base [] = (base, none) := by
  rw [mergeRows]

theorem mergedRows_eq_ok_iff :
    mergedRows fs asked base = .ok merged ↔
      ∃ rows, UsedRows fs asked base rows ∧ mergeRows [] defaults rows = (merged, none) := by
  rw [mergedRows, bind_eq_ok_iff]
  constructor
  · intro h
    obtain ⟨path, hpath, h⟩ := h
    obtain ⟨found, hfound, h⟩ := bind_eq_ok_iff.mp h
    rw [mapError_eq_ok_iff] at hfound
    cases found with
    | true =>
      obtain ⟨rows, hrows, h⟩ := bind_eq_ok_iff.mp h
      refine ⟨rows, .file hpath (readRows_eq_ok_iff.mp hrows), ?_⟩
      rcases hmerge : mergeRows [] defaults rows with ⟨result, fault⟩
      rw [hmerge] at h
      cases fault with
      | none =>
        cases h
        rfl
      | some fault => cases h
    | false =>
      cases asked with
      | some path => cases h
      | none =>
        cases h
        exact ⟨[], .none hpath rfl hfound, mergeRows_nil _ _⟩
  · intro h
    obtain ⟨rows, hused, hmerge⟩ := h
    cases hused with
    | file hpath h =>
      obtain ⟨bytes, t, hbytes, htext⟩ := h
      have hfound := pathExists_of_readFile hbytes
      have hrows := readRows_eq_ok_iff.mpr ⟨bytes, t, hbytes, htext⟩
      refine ⟨_, hpath, bind_eq_ok_iff.mpr ⟨true, mapError_eq_ok_iff.mpr hfound, ?_⟩⟩
      refine bind_eq_ok_iff.mpr ⟨rows, hrows, ?_⟩
      rw [hmerge]
    | none hpath hasked h =>
      subst hasked
      rw [mergeRows_nil] at hmerge
      cases hmerge
      refine ⟨_, hpath, ?_⟩
      rw [h]
      rfl

/-- Why there are no merged rows. -/
inductive Unmerged (fs : FileSystem) (asked : Option Path) (base : Path) : Stop → Prop
  | home {path : Path} {fault : FileSystem.Fault} (hasked : asked = some path)
      (h : fs.expandHome path = .error fault) :
      Unmerged fs asked base (.interruption (.path fault))
  | unseen {path : Path} {fault : FileSystem.Fault} (hpath : filePath fs asked base = .ok path)
      (h : fs.pathExists path = .error fault) :
      Unmerged fs asked base (.interruption (.path fault))
  | unread {path : Path} {stop : Stop} (hpath : filePath fs asked base = .ok path)
      (hfound : fs.pathExists path = .ok true) (h : readRows fs path = .error stop) :
      Unmerged fs asked base stop
  | refused {path : Path} {rows : Rows} {fault : MergeFault}
      (hpath : filePath fs asked base = .ok path) (hfound : fs.pathExists path = .ok true)
      (hrows : readRows fs path = .ok rows) (h : (mergeRows [] defaults rows).2 = some fault) :
      Unmerged fs asked base (.failure (.settings (.merge fault)))
  | missing {path : Path} (hpath : filePath fs asked base = .ok path)
      (hmissing : fs.pathExists path = .ok false) (hasked : asked.isSome = true) :
      Unmerged fs asked base (.failure (.settings (.fileMissing path)))

theorem filePath_eq_error_iff {stop : Stop} :
    filePath fs asked base = .error stop ↔ ∃ path fault, asked = some path ∧
      fs.expandHome path = .error fault ∧ stop = .interruption (.path fault) := by
  cases asked with
  | none => simp [filePath]
  | some path =>
    rw [filePath, mapError_eq_error_iff]
    simp [eq_comm]

theorem mergedRows_eq_error_iff {stop : Stop} :
    mergedRows fs asked base = .error stop ↔ Unmerged fs asked base stop := by
  rw [mergedRows]
  constructor
  · intro h
    rcases bind_eq_error_iff.mp h with hpath | ⟨path, hpath, h⟩
    · obtain ⟨path, fault, hasked, hhome, rfl⟩ := filePath_eq_error_iff.mp hpath
      exact .home hasked hhome
    rcases bind_eq_error_iff.mp h with hfound | ⟨found, hfound, h⟩
    · obtain ⟨fault, hfault, rfl⟩ := mapError_eq_error_iff.mp hfound
      exact .unseen hpath hfault
    rw [mapError_eq_ok_iff] at hfound
    cases found with
    | true =>
      rcases bind_eq_error_iff.mp h with hrows | ⟨rows, hrows, h⟩
      · exact .unread hpath hfound hrows
      · rcases hmerge : mergeRows [] defaults rows with ⟨merged, fault⟩
        rw [hmerge] at h
        cases fault with
        | none => cases h
        | some fault =>
          cases h
          exact .refused hpath hfound hrows (congrArg Prod.snd hmerge)
    | false =>
      cases asked with
      | none => cases h
      | some file =>
        cases h
        exact .missing hpath hfound rfl
  · intro h
    cases h with
    | home hasked h =>
      exact bind_eq_error_iff.mpr (Or.inl (filePath_eq_error_iff.mpr ⟨_, _, hasked, h, rfl⟩))
    | unseen hpath h =>
      refine bind_eq_error_iff.mpr (Or.inr ⟨_, hpath, ?_⟩)
      exact bind_eq_error_iff.mpr (Or.inl (mapError_eq_error_iff.mpr ⟨_, h, rfl⟩))
    | unread hpath hfound h =>
      refine bind_eq_error_iff.mpr (Or.inr ⟨_, hpath, ?_⟩)
      refine bind_eq_error_iff.mpr (Or.inr ⟨true, mapError_eq_ok_iff.mpr hfound, ?_⟩)
      exact bind_eq_error_iff.mpr (Or.inl h)
    | refused hpath hfound hrows h =>
      refine bind_eq_error_iff.mpr (Or.inr ⟨_, hpath, ?_⟩)
      refine bind_eq_error_iff.mpr (Or.inr ⟨true, mapError_eq_ok_iff.mpr hfound, ?_⟩)
      refine bind_eq_error_iff.mpr (Or.inr ⟨_, hrows, ?_⟩)
      split
      · next hmerge =>
        rw [hmerge] at h
        cases h
      · next hmerge =>
        rw [hmerge] at h
        cases h
        rfl
    | missing hpath hmissing hasked =>
      refine bind_eq_error_iff.mpr (Or.inr ⟨_, hpath, ?_⟩)
      refine bind_eq_error_iff.mpr (Or.inr ⟨false, mapError_eq_ok_iff.mpr hmissing, ?_⟩)
      rw [hasked]
      rfl

section Checks

variable {α β : Type} {result : Except Fault α} {next : α → Except Stop β}

theorem checked_eq_ok_iff {a : α} : checked result = .ok a ↔ result = .ok a := mapError_eq_ok_iff

theorem checked_bind_eq_failure {failure : Failure}
    (h : checked result >>= next = .error (.failure failure)) :
    (∃ fault, result = .error fault ∧ failure = .settings fault) ∨
      ∃ a, result = .ok a ∧ next a = .error (.failure failure) := by
  rcases bind_eq_error_iff.mp h with hchecked | ⟨a, ha, hnext⟩
  · obtain ⟨fault, hfault, hstop⟩ := mapError_eq_error_iff.mp hchecked
    cases hstop
    exact Or.inl ⟨fault, hfault, rfl⟩
  · exact Or.inr ⟨a, checked_eq_ok_iff.mp ha, hnext⟩

/-- A check itself never interrupts. -/
theorem checked_bind_eq_interruption_iff {interruption : Interruption} :
    checked result >>= next = .error (.interruption interruption) ↔
      ∃ a, result = .ok a ∧ next a = .error (.interruption interruption) := by
  constructor
  · intro h
    rcases bind_eq_error_iff.mp h with hchecked | ⟨a, ha, hnext⟩
    · obtain ⟨fault, -, hstop⟩ := mapError_eq_error_iff.mp hchecked
      cases hstop
    · exact ⟨a, checked_eq_ok_iff.mp ha, hnext⟩
  · intro h
    obtain ⟨a, ha, hnext⟩ := h
    exact bind_eq_error_iff.mpr (Or.inr ⟨a, checked_eq_ok_iff.mpr ha, hnext⟩)

/-- The faults of checked values, as against those of the settings file and of arguments. -/
def Fault.isOfCheck : Fault → Bool
  | .licenseNotText | .outputNameEmpty | .outputNameNotBare _ | .extensionEmpty | .logLevelEmpty
  | .logFileNotText => true
  | _ => false

theorem isOfCheck_of_licenseOf {value : Value} {fault : Fault}
    (h : licenseOf value = .error fault) : fault.isOfCheck = true := by
  cases value with
  | null => cases h
  | text t => cases h
  | _ =>
    cases h
    rfl

theorem isOfCheck_of_checkOutputName {value : Text} {fault : Fault}
    (h : checkOutputName value = .error fault) : fault.isOfCheck = true := by
  rw [checkOutputName] at h
  split at h
  · cases h
    rfl
  · split at h
    · cases h
      rfl
    · cases h

theorem isOfCheck_of_checkExtension {value : Text} {fault : Fault}
    (h : checkExtension value = .error fault) : fault.isOfCheck = true := by
  rw [checkExtension] at h
  split at h
  · cases h
    rfl
  · cases h

theorem isOfCheck_of_checkLogLevel {value : Text} {fault : Fault}
    (h : checkLogLevel value = .error fault) : fault.isOfCheck = true := by
  rw [checkLogLevel] at h
  split at h
  · cases h
    rfl
  · cases h

theorem failure_of_logFileOf {value : Value} {failure : Failure}
    (h : logFileOf fs value = .error (.failure failure)) : failure = .settings .logFileNotText := by
  cases value with
  | null => cases h
  | text t =>
    rw [logFileOf] at h
    split at h
    · cases h
    · split at h <;> cases h
  | _ =>
    cases h
    rfl

end Checks

/-- What is made of the merged rows: the settings, when all checks pass. -/
def assemble (fs : FileSystem) (source destination : Path) (overrides : Overrides) (merged : Rows) :
    Except Stop Settings := do
  let license ← checked (licenseOf (Key.license.valueIn merged))
  let outputName ← checked (checkOutputName
    (overrides.outputName.getD ((Key.outputName.valueIn merged).text?.getD [])))
  let extension ← checked (checkExtension ((Key.extension.valueIn merged).text?.getD []))
  let logLevel ← checked (checkLogLevel
    (overrides.logLevel.getD ((Key.logLevel.valueIn merged).text?.getD [])))
  let logFile ← logFileOf fs (Key.logFile.valueIn merged)
  pure {
    source
    destination
    full := overrides.full.getD (Key.full.valueIn merged).isTrue
    license := overrides.license.or license
    sort := overrides.sort.getD (Key.sort.valueIn merged).isTrue
    strictNames := overrides.strictNames.getD (Key.strictNames.valueIn merged).isTrue
    outputName
    extension
    logLevel
    logFile := overrides.logFile.or logFile }

theorem load_eq (fs : FileSystem) (source destination : Path) (asked : Option Path) (base : Path)
    (overrides : Overrides) :
    load fs source destination asked base overrides =
      mergedRows fs asked base >>= assemble fs source destination overrides := rfl

/-- The checks that come before the log file, with what they give. -/
structure Checked (overrides : Overrides) (merged : Rows) (license : Option Text)
    (outputName extension logLevel : Text) : Prop where
  license : licenseOf (Key.license.valueIn merged) = .ok license
  outputName : checkOutputName
    (overrides.outputName.getD ((Key.outputName.valueIn merged).text?.getD [])) = .ok outputName
  extension : checkExtension ((Key.extension.valueIn merged).text?.getD []) = .ok extension
  logLevel : checkLogLevel
    (overrides.logLevel.getD ((Key.logLevel.valueIn merged).text?.getD [])) = .ok logLevel

section Assembly

variable {source destination : Path} {overrides : Overrides} {settings : Settings}

theorem load_of_unmerged {stop : Stop} (h : Unmerged fs asked base stop) :
    load fs source destination asked base overrides = .error stop := by
  rw [load_eq]
  exact bind_eq_error_iff.mpr (Or.inl (mergedRows_eq_error_iff.mpr h))

theorem load_of_used (hrows : UsedRows fs asked base rows)
    (hmerge : mergeRows [] defaults rows = (merged, none)) :
    load fs source destination asked base overrides =
      assemble fs source destination overrides merged := by
  rw [load_eq, mergedRows_eq_ok_iff.mpr ⟨rows, hrows, hmerge⟩]
  rfl

theorem assemble_eq_ok_iff :
    assemble fs source destination overrides merged = .ok settings ↔
      ∃ license outputName extension logLevel logFile,
        Checked overrides merged license outputName extension logLevel ∧
        logFileOf fs (Key.logFile.valueIn merged) = .ok logFile ∧
        settings = {
          source
          destination
          full := overrides.full.getD (Key.full.valueIn merged).isTrue
          license := overrides.license.or license
          sort := overrides.sort.getD (Key.sort.valueIn merged).isTrue
          strictNames := overrides.strictNames.getD (Key.strictNames.valueIn merged).isTrue
          outputName
          extension
          logLevel
          logFile := overrides.logFile.or logFile } := by
  rw [assemble]
  constructor
  · intro h
    obtain ⟨license, hlicense, h⟩ := bind_eq_ok_iff.mp h
    obtain ⟨outputName, hname, h⟩ := bind_eq_ok_iff.mp h
    obtain ⟨extension, hextension, h⟩ := bind_eq_ok_iff.mp h
    obtain ⟨logLevel, hlevel, h⟩ := bind_eq_ok_iff.mp h
    obtain ⟨logFile, hfile, h⟩ := bind_eq_ok_iff.mp h
    have hchecked : Checked overrides merged license outputName extension logLevel :=
      ⟨checked_eq_ok_iff.mp hlicense, checked_eq_ok_iff.mp hname, checked_eq_ok_iff.mp hextension,
        checked_eq_ok_iff.mp hlevel⟩
    exact ⟨license, outputName, extension, logLevel, logFile, hchecked, hfile,
      (Except.ok.inj h).symm⟩
  · intro h
    obtain ⟨license, outputName, extension, logLevel, logFile, hchecked, hfile, rfl⟩ := h
    refine bind_eq_ok_iff.mpr ⟨license, checked_eq_ok_iff.mpr hchecked.license, ?_⟩
    refine bind_eq_ok_iff.mpr ⟨outputName, checked_eq_ok_iff.mpr hchecked.outputName, ?_⟩
    refine bind_eq_ok_iff.mpr ⟨extension, checked_eq_ok_iff.mpr hchecked.extension, ?_⟩
    refine bind_eq_ok_iff.mpr ⟨logLevel, checked_eq_ok_iff.mpr hchecked.logLevel, ?_⟩
    exact bind_eq_ok_iff.mpr ⟨logFile, hfile, rfl⟩

/-- Settings that were loaded have passed the checks. -/
theorem checked_of_load (h : load fs source destination asked base overrides = .ok settings) :
    ∃ merged license, Checked overrides merged license settings.outputName settings.extension
      settings.logLevel := by
  rw [load_eq] at h
  obtain ⟨merged, -, h⟩ := bind_eq_ok_iff.mp h
  obtain ⟨license, outputName, extension, logLevel, logFile, hchecked, -, rfl⟩ :=
    assemble_eq_ok_iff.mp h
  exact ⟨merged, license, hchecked⟩

/-- A failure says which check did not pass. -/
theorem assemble_eq_failure {failure : Failure}
    (h : assemble fs source destination overrides merged = .error (.failure failure)) :
    ∃ fault, failure = .settings fault ∧ fault.isOfCheck = true := by
  rw [assemble] at h
  rcases checked_bind_eq_failure h with ⟨fault, hfault, hfailure⟩ | ⟨license, -, h⟩
  · exact ⟨fault, hfailure, isOfCheck_of_licenseOf hfault⟩
  rcases checked_bind_eq_failure h with ⟨fault, hfault, hfailure⟩ | ⟨outputName, -, h⟩
  · exact ⟨fault, hfailure, isOfCheck_of_checkOutputName hfault⟩
  rcases checked_bind_eq_failure h with ⟨fault, hfault, hfailure⟩ | ⟨extension, -, h⟩
  · exact ⟨fault, hfailure, isOfCheck_of_checkExtension hfault⟩
  rcases checked_bind_eq_failure h with ⟨fault, hfault, hfailure⟩ | ⟨logLevel, -, h⟩
  · exact ⟨fault, hfailure, isOfCheck_of_checkLogLevel hfault⟩
  rcases bind_eq_error_iff.mp h with hfile | ⟨logFile, -, h⟩
  · rw [failure_of_logFileOf hfile]
    exact ⟨.logFileNotText, rfl, rfl⟩
  · cases h

/-- Only the log file of the settings file can interrupt what is made of the merged rows. -/
theorem assemble_eq_interruption_iff {interruption : Interruption} :
    assemble fs source destination overrides merged = .error (.interruption interruption) ↔
      (∃ license outputName extension logLevel,
        Checked overrides merged license outputName extension logLevel) ∧
      logFileOf fs (Key.logFile.valueIn merged) = .error (.interruption interruption) := by
  rw [assemble]
  constructor
  · intro h
    obtain ⟨license, hlicense, h⟩ := checked_bind_eq_interruption_iff.mp h
    obtain ⟨outputName, hname, h⟩ := checked_bind_eq_interruption_iff.mp h
    obtain ⟨extension, hextension, h⟩ := checked_bind_eq_interruption_iff.mp h
    obtain ⟨logLevel, hlevel, h⟩ := checked_bind_eq_interruption_iff.mp h
    rcases bind_eq_error_iff.mp h with hfile | ⟨logFile, -, h⟩
    · exact ⟨⟨license, outputName, extension, logLevel, hlicense, hname, hextension, hlevel⟩, hfile⟩
    · cases h
  · intro h
    obtain ⟨⟨license, outputName, extension, logLevel, hchecked⟩, hfile⟩ := h
    refine checked_bind_eq_interruption_iff.mpr ⟨license, hchecked.license, ?_⟩
    refine checked_bind_eq_interruption_iff.mpr ⟨outputName, hchecked.outputName, ?_⟩
    refine checked_bind_eq_interruption_iff.mpr ⟨extension, hchecked.extension, ?_⟩
    refine checked_bind_eq_interruption_iff.mpr ⟨logLevel, hchecked.logLevel, ?_⟩
    exact bind_eq_error_iff.mpr (Or.inl hfile)

end Assembly

/-- A file with this content stands where a settings file is looked for, and nothing else is there.
-/
def withSettingsFile (content : List UInt8) : FileSystem where
  home := { names := [.of "home"] }
  entries := [([fileName], .file content Entry.newFileMode)]

end Settings

end HelpText
