import HelpText.Proofs.Settings.Loading
import HelpText.Proofs.Text.Encoding
import HelpText.Proofs.Toml.Writing

/-!
One setting, given in the invocation or in a settings file that holds nothing else. Main statement:
both ways give the same settings or refuse them, but for a log file. In the invocation it names a
path as it is written; in a file the blanks around it go, and a leading `~` stands for a home.
-/

namespace HelpText

namespace Settings

/-- The keys that an invocation gives as a text, or as the path which a text names. -/
def Key.isText : Key → Bool
  | .license | .outputName | .logLevel | .logFile => true
  | _ => false

/-- What the invocation gives if it sets `key` to this text and nothing else. -/
def Overrides.ofText (t : Text) : Key → Overrides
  | .license => { license := some t }
  | .outputName => { outputName := some t }
  | .logLevel => { logLevel := some t }
  | .logFile => { logFile := some (Path.read t) }
  | _ => {}

/-- The rows of a settings file that sets `key` to this text and nothing else. -/
def Key.onlyRows (key : Key) (t : Text) : Rows := [(key.table, .table [(key.word, .text t)])]

/-- Both give the same settings, or both refuse them. -/
def Agree (first second : Except Stop Settings) : Prop :=
  (∃ settings, first = .ok settings ∧ second = .ok settings) ∨
    ∃ fault fault', first = .error (.failure (.settings fault)) ∧
      second = .error (.failure (.settings fault'))

section EitherWay

variable {fs fs' : FileSystem} {source destination : Path} {asked : Option Path}
  {base base' : Path} {merged : Rows} {key : Key} {t : Text}

theorem heldIn_onlyRows (key other : Key) (t : Text) :
    other.heldIn (key.onlyRows t) = if other = key then some (.text t) else none := by
  cases key <;> cases other <;> rfl

theorem mergeRows_onlyRows (hkey : key.isText = true) (t : Text) :
    ∃ merged, mergeRows [] defaults (key.onlyRows t) = (merged, none) := by
  cases key with
  | license => exact ⟨_, rfl⟩
  | outputName => exact ⟨_, rfl⟩
  | logLevel => exact ⟨_, rfl⟩
  | logFile => exact ⟨_, rfl⟩
  | _ => cases hkey

theorem valueIn_defaults (key : Key) : key.valueIn defaults = key.default := by
  cases key <;> rfl

/-- A value that is checked after the choice between the two ways is the same for both. -/
theorem assemble_ofText (hkey : key.isText = true) (hfile : key ≠ .logFile)
    (hvalue : ∀ other : Key,
      other.valueIn merged = if other = key then .text t else other.default) :
    assemble fs source destination (Overrides.ofText t key) defaults =
      assemble fs' source destination {} merged := by
  rw [assemble, assemble]
  simp only [hvalue, valueIn_defaults]
  cases key with
  | license => rfl
  | outputName => rfl
  | logLevel => rfl
  | logFile => exact absurd rfl hfile
  | _ => cases hkey

/-- A log file is named in a file, so that its home has yet to be found. -/
theorem assemble_logFile (hvalue : ∀ other : Key,
      other.valueIn merged = if other = .logFile then .text t else other.default) :
    assemble fs source destination {} merged =
      (logFileOf fs (.text t)).map fun logFile => { source, destination, logFile } := by
  rw [assemble]
  simp only [hvalue]
  rfl

/-- Where no log file is named, the checks end in settings or in a refusal. -/
theorem agree_assemble {overrides : Overrides} (h : Key.logFile.valueIn merged = .null) :
    Agree (assemble fs source destination overrides merged)
      (assemble fs source destination overrides merged) := by
  cases hresult : assemble fs source destination overrides merged with
  | ok settings => exact Or.inl ⟨settings, rfl, rfl⟩
  | error stop =>
    cases stop with
    | interruption interruption =>
      have hfile := (assemble_eq_interruption_iff.mp hresult).2
      rw [h] at hfile
      cases hfile
    | failure failure =>
      obtain ⟨fault, rfl, -⟩ := assemble_eq_failure hresult
      exact Or.inr ⟨fault, fault, rfl, rfl⟩

/-- What a file names as the log file is the path that was given or another one, or there is no home
to put for its `~`; a refusal it is never. -/
theorem agree_logFile_iff {settings : Settings} {asSettings : Option Path → Settings}
    (hinj : Function.Injective asSettings) (ht : Text.isBlank t = false) (path : Path)
    (hsettings : asSettings (some path) = settings) :
    Agree (.ok settings) ((logFileOf fs (.text t)).map asSettings) ↔
      fs.expandHome (Path.read (Text.trim t)) = .ok path := by
  subst hsettings
  rw [logFileOf, if_neg (by simp [ht])]
  cases fs.expandHome (Path.read (Text.trim t)) with
  | ok named =>
    simp only [Agree, Except.map, Except.ok.injEq, reduceCtorEq, false_and, exists_false, or_false,
      exists_eq_left']
    rw [hinj.eq_iff, Option.some.injEq]
  | error fault => simp [Agree, Except.map]

/-- Every text can stand in a settings file for a key, and alone. -/
theorem fileHolds_onlyRows (key : Key) (t : Text) :
    FileHolds (withSettingsFile (Utf8.encode (Toml.document key.table key.word t)))
      { names := [fileName] } (key.onlyRows t) := by
  have htable : Toml.IsBare key.table := by cases key <;> decide
  have hword : Toml.IsBare key.word := by cases key <;> decide
  exact ⟨_, _, rfl, Utf8.decode_encode _, Toml.read_document htable hword t⟩

/-- A setting means the same whichever way it is given, up to the path of a log file: it is the one
that the invocation names exactly if trimming its text and putting a home for a leading `~` leave
the path as it is. Each text can be given in a file. -/
theorem load_eitherWay_iff (source destination : Path) (hkey : key.isText = true)
    (ht : Text.isBlank t = false)
    (hnone : fs.pathExists (base ++ { names := [fileName] }) = .ok false)
    (hfile : UsedRows fs' asked base' (key.onlyRows t)) :
    (Agree (load fs source destination none base (Overrides.ofText t key))
        (load fs' source destination asked base' {}) ↔
      (key = .logFile → fs'.expandHome (Path.read (Text.trim t)) = .ok (Path.read t))) ∧
    (key ≠ .logFile → load fs source destination none base (Overrides.ofText t key) =
      load fs' source destination asked base' {}) ∧
    ∃ content, FileHolds (withSettingsFile content) { names := [fileName] } (key.onlyRows t) := by
  -- The merged rows differ from the defaults in this key alone.
  obtain ⟨merged, hmerge⟩ := mergeRows_onlyRows hkey t
  have hvalue (other : Key) :
      other.valueIn merged = if other = key then .text t else other.default := by
    rw [(valueIn_merged hfile.keysDiffer hmerge other).1, heldIn_onlyRows]
    split <;> rfl
  rw [load_of_used (.none rfl rfl hnone) (mergeRows_nil [] defaults), load_of_used hfile hmerge]
  by_cases hlog : key = .logFile
  · subst hlog
    refine ⟨?_, fun h => absurd rfl h, _, fileHolds_onlyRows .logFile t⟩
    rw [assemble_logFile hvalue]
    have hgiven : assemble fs source destination (Overrides.ofText t .logFile) defaults =
        .ok { source, destination, logFile := some (Path.read t) } := rfl
    rw [hgiven, agree_logFile_iff (fun a b h => congrArg Settings.logFile h) ht (Path.read t) rfl]
    exact ⟨fun h _ => h, fun h => h rfl⟩
  · have hsame : assemble fs source destination (Overrides.ofText t key) defaults =
        assemble fs' source destination {} merged := assemble_ofText hkey hlog hvalue
    refine ⟨⟨fun _ h => absurd h hlog, fun _ => ?_⟩, fun _ => hsame, _, fileHolds_onlyRows key t⟩
    rw [← hsame]
    exact agree_assemble (valueIn_defaults .logFile)

end EitherWay

def noFile : FileSystem where
  home := { names := [.of "home"] }

/-- A settings file that sets `key` to this text stands in the working directory. -/
def fileWith (key : Key) (t : Text) : FileSystem :=
  withSettingsFile (Utf8.encode (Toml.document key.table key.word t))

/-- The settings of an invocation that sets `key` where no settings file is. -/
def fromInvocation (key : Key) (t : Text) : Except Stop Settings :=
  load noFile { names := [.of "docs"] } { names := [.of "out"] } none { names := [] }
    (Overrides.ofText t key)

/-- The settings of an invocation that sets nothing, where the settings file sets `key`. -/
def fromFile (key : Key) (t : Text) : Except Stop Settings :=
  load (fileWith key t) { names := [.of "docs"] } { names := [.of "out"] } none { names := [] } {}

theorem noFile_pathExists :
    noFile.pathExists ({ names := [] } ++ { names := [fileName] }) = .ok false := by
  decide +kernel

theorem usedRows_fileWith (key : Key) (t : Text) :
    UsedRows (fileWith key t) none { names := [] } (key.onlyRows t) :=
  .file rfl (fileHolds_onlyRows key t)

/-- Slashes and `.` in the path of a log file and blanks around a name are no matter. -/
theorem load_eitherWay_slashesAndBlanks :
    Agree (fromInvocation .logFile (.of "logs//./run.log"))
      (fromFile .logFile (.of "logs//./run.log")) ∧
    fromInvocation .outputName (.of " help.go ") = fromFile .outputName (.of " help.go ") := by
  constructor
  · have hused := usedRows_fileWith .logFile (.of "logs//./run.log")
    apply (load_eitherWay_iff _ _ rfl (by decide) noFile_pathExists hused).1.mpr
    intro _
    decide +kernel
  · have hused := usedRows_fileWith .outputName (.of " help.go ")
    apply (load_eitherWay_iff _ _ rfl (by decide) noFile_pathExists hused).2.1
    decide

theorem Agree.toOption_eq {first second : Except Stop Settings} (h : Agree first second) :
    first.toOption = second.toOption := by
  rcases h with ⟨settings, rfl, rfl⟩ | ⟨fault, fault', rfl, rfl⟩ <;> rfl

/-- A home takes the place of a leading `~` in a file, and not in the invocation. -/
theorem home_expanded_in_file_only :
    Text.isBlank (.of "~/run.log") = false ∧
    noFile.pathExists ({ names := [] } ++ { names := [fileName] }) = .ok false ∧
    UsedRows (fileWith .logFile (.of "~/run.log")) none { names := [] }
      (Key.logFile.onlyRows (.of "~/run.log")) ∧
    ¬ Agree (fromInvocation .logFile (.of "~/run.log")) (fromFile .logFile (.of "~/run.log")) := by
  refine ⟨by decide, noFile_pathExists, usedRows_fileWith .logFile _, ?_⟩
  intro h
  have hlog := congrArg (Option.map Settings.logFile) h.toOption_eq
  have hgiven : (fromInvocation .logFile (.of "~/run.log")).toOption.map Settings.logFile =
      some (some { names := [.of "~", .of "run.log"] }) := by
    decide +kernel
  have hheld : (fromFile .logFile (.of "~/run.log")).toOption.map Settings.logFile =
      some (some { names := [.of "home", .of "run.log"] }) := by
    decide +kernel
  rw [hgiven, hheld] at hlog
  exact absurd hlog (by decide)

end Settings

end HelpText
