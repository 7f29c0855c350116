import HelpText.Proofs.Settings.Loading

/-!
Where settings come from: what the invocation gives comes first, then what the settings file holds,
then the default. Nothing that the invocation gives depends on the file.
-/

namespace HelpText

namespace Settings

def Value.boolean? : Value → Option Bool
  | .boolean b => some b
  | _ => none

/-- A value of the kind of the key's default; a key without a default takes a text. -/
def Key.Takes (key : Key) (value : Value) : Prop :=
  value.kind = key.default.kind ∨ key.default.kind = .null ∧ value.kind = .text

def flagIn (rows : Rows) (key : Key) : Option Bool := (key.heldIn rows).bind Value.boolean?

def textIn (rows : Rows) (key : Key) : Option Text := (key.heldIn rows).bind Value.text?

/-- What a file holds for a log file names a path, unless it is blank. -/
def namedFile (fs : FileSystem) (t : Text) : Option Path :=
  if Text.isBlank t then none else (fs.expandHome (Path.read (Text.trim t))).toOption

def withDot (extension : Text) : Text :=
  if extension.head? = some '.' then extension else '.' :: extension

/-- The settings that the invocation, a file with these rows and the defaults make together. -/
def chosen (fs : FileSystem) (source destination : Path) (rows : Rows) (overrides : Overrides) :
    Settings where
  source
  destination
  full := (overrides.full.or (flagIn rows .full)).getD false
  license := overrides.license.or (textIn rows .license)
  sort := (overrides.sort.or (flagIn rows .sort)).getD true
  strictNames := (overrides.strictNames.or (flagIn rows .strictNames)).getD false
  outputName :=
    Text.trim ((overrides.outputName.or (textIn rows .outputName)).getD (.of "docs.go"))
  extension := withDot (Text.trim ((textIn rows .extension).getD (.of ".md")))
  logLevel :=
    Text.upper (Text.trim ((overrides.logLevel.or (textIn rows .logLevel)).getD (.of "INFO")))
  logFile := overrides.logFile.or ((textIn rows .logFile).bind (namedFile fs))

/-- Whether the invocation gives the setting, be it `false` or an empty text. -/
def Overrides.gives (overrides : Overrides) : Key → Bool
  | .full => overrides.full.isSome
  | .license => overrides.license.isSome
  | .sort => overrides.sort.isSome
  | .strictNames => overrides.strictNames.isSome
  | .outputName => overrides.outputName.isSome
  | .extension => false
  | .logLevel => overrides.logLevel.isSome
  | .logFile => overrides.logFile.isSome

/-- What the invocation gives passes the checks. -/
structure Overrides.Sound (overrides : Overrides) : Prop where
  outputName : ∀ t, overrides.outputName = some t →
    Text.trim t ≠ [] ∧ (Path.read (Text.trim t)).name = Text.trim t
  logLevel : ∀ t, overrides.logLevel = some t → Text.isBlank t = false

section Checks

variable {value : Text}

theorem licenseOf_eq_ok {given : Value} {license : Option Text}
    (h : licenseOf given = .ok license) :
    (given.kind = .null ∨ given.kind = .text) ∧ license = given.text? := by
  cases given with
  | null =>
    cases h
    exact ⟨Or.inl rfl, rfl⟩
  | text t =>
    cases h
    exact ⟨Or.inr rfl, rfl⟩
  | _ => cases h

theorem checkOutputName_eq_ok_iff {name : Text} :
    checkOutputName value = .ok name ↔
      (Text.trim value ≠ [] ∧ (Path.read (Text.trim value)).name = Text.trim value) ∧
        name = Text.trim value := by
  rw [checkOutputName]
  by_cases hempty : Text.trim value = []
  · simp [hempty]
  · by_cases hbare : (Path.read (Text.trim value)).name = Text.trim value
    · simp [hempty, hbare, eq_comm]
    · simp [hempty, hbare]

theorem checkExtension_eq_ok {extension : Text} (h : checkExtension value = .ok extension) :
    extension = withDot (Text.trim value) := by
  rw [checkExtension] at h
  split at h
  · cases h
  · exact (Except.ok.inj h).symm

theorem checkLogLevel_eq_ok_iff {level : Text} :
    checkLogLevel value = .ok level ↔
      Text.isBlank value = false ∧ level = Text.upper (Text.trim value) := by
  rw [checkLogLevel]
  by_cases hblank : Text.isBlank value = true
  · simp [hblank]
  · simp [hblank, eq_comm]

theorem logFileOf_eq_ok {fs : FileSystem} {given : Value} {logFile : Option Path}
    (h : logFileOf fs given = .ok logFile) :
    (given.kind = .null ∨ given.kind = .text) ∧ logFile = given.text?.bind (namedFile fs) := by
  cases given with
  | null =>
    cases h
    exact ⟨Or.inl rfl, rfl⟩
  | text t =>
    refine ⟨Or.inr rfl, ?_⟩
    rw [logFileOf] at h
    rw [Value.text?, Option.bind_some, namedFile]
    by_cases hblank : Text.isBlank t = true
    · rw [if_pos hblank] at h ⊢
      exact (Except.ok.inj h).symm
    · rw [if_neg hblank] at h ⊢
      cases hhome : fs.expandHome (Path.read (Text.trim t)) with
      | ok path =>
        rw [hhome] at h
        exact (Except.ok.inj h).symm
      | error fault =>
        rw [hhome] at h
        cases h
  | _ => cases h

end Checks

section Merged

variable {rows merged : Rows} {key : Key}

theorem isTrue_merged (hkeys : Toml.KeysDiffer (.table rows))
    (h : mergeRows [] defaults rows = (merged, none)) {b : Bool}
    (hdefault : key.default = .boolean b) :
    (key.valueIn merged).isTrue = (flagIn rows key).getD b := by
  obtain ⟨hvalue, hkind⟩ := valueIn_merged hkeys h key
  rw [hvalue, flagIn]
  rw [hdefault] at hkind ⊢
  cases hheld : key.heldIn rows with
  | none => rfl
  | some value =>
    rcases hkind value hheld with hnull | hboolean
    · cases hnull
    · cases value with
      | boolean b => rfl
      | _ => cases hboolean

theorem text_merged (hkeys : Toml.KeysDiffer (.table rows))
    (h : mergeRows [] defaults rows = (merged, none)) {t : Text}
    (hdefault : key.default = .text t) :
    (key.valueIn merged).text?.getD [] = (textIn rows key).getD t := by
  obtain ⟨hvalue, hkind⟩ := valueIn_merged hkeys h key
  rw [hvalue, textIn]
  rw [hdefault] at hkind ⊢
  cases hheld : key.heldIn rows with
  | none => rfl
  | some value =>
    rcases hkind value hheld with hnull | htext
    · cases hnull
    · cases value with
      | text t => rfl
      | _ => cases htext

theorem text?_merged (hkeys : Toml.KeysDiffer (.table rows))
    (h : mergeRows [] defaults rows = (merged, none)) (hdefault : key.default = .null) :
    (key.valueIn merged).text? = textIn rows key := by
  obtain ⟨hvalue, -⟩ := valueIn_merged hkeys h key
  rw [hvalue, textIn, hdefault]
  cases key.heldIn rows with
  | none => rfl
  | some value => rfl

end Merged

section Choice

variable {fs fs' : FileSystem} {source destination : Path} {asked : Option Path} {base : Path}
  {overrides : Overrides} {rows other merged : Rows} {settings : Settings}

theorem getD_eq_or_getD {α : Type} {given held : Option α} {value fallback : α}
    (h : value = held.getD fallback) : given.getD value = (given.or held).getD fallback := by
  rw [Option.getD_or, h]

/-- The settings that come out are the chosen ones, and every value in the file was fit for its key.
-/
theorem chosen_of_assemble (hkeys : Toml.KeysDiffer (.table rows))
    (hmerge : mergeRows [] defaults rows = (merged, none))
    (h : assemble fs source destination overrides merged = .ok settings) :
    (∀ key value, Key.heldIn key rows = some value → key.Takes value) ∧
      settings = chosen fs source destination rows overrides := by
  obtain ⟨license, outputName, extension, logLevel, logFile, hchecked, hfile, rfl⟩ :=
    assemble_eq_ok_iff.mp h
  obtain ⟨hlicenseKind, hlicense⟩ := licenseOf_eq_ok hchecked.license
  obtain ⟨hfileKind, hfile⟩ := logFileOf_eq_ok hfile
  constructor
  · intro key value hheld
    obtain ⟨hvalue, hkind⟩ := valueIn_merged hkeys hmerge key
    rw [hheld, Option.getD_some] at hvalue
    rcases hkind value hheld with hnull | hsame
    · -- Without a default of a kind of its own there is the license and the log file.
      rw [← hvalue]
      cases key with
      | license => exact hlicenseKind.imp id fun htext => ⟨rfl, htext⟩
      | logFile => exact hfileKind.imp id fun htext => ⟨rfl, htext⟩
      | _ => cases hnull
    · exact Or.inl hsame
  · have hname := (checkOutputName_eq_ok_iff.mp hchecked.outputName).2
    have hextension := checkExtension_eq_ok hchecked.extension
    have hlevel := (checkLogLevel_eq_ok_iff.mp hchecked.logLevel).2
    rw [getD_eq_or_getD (text_merged hkeys hmerge rfl)] at hname hlevel
    rw [text_merged hkeys hmerge rfl] at hextension
    rw [text?_merged hkeys hmerge rfl] at hlicense hfile
    rw [chosen, hname, hextension, hlevel, hlicense, hfile,
      getD_eq_or_getD (isTrue_merged hkeys hmerge rfl),
      getD_eq_or_getD (isTrue_merged hkeys hmerge rfl),
      getD_eq_or_getD (isTrue_merged hkeys hmerge rfl)]

theorem given_or_congr {α : Type} {given held held' : Option α}
    (h : given.isSome = false → held = held') : given.or held = given.or held' := by
  cases given with
  | none => exact h rfl
  | some value => rfl

/-- What the file holds for a setting that the invocation gives makes no difference. -/
theorem chosen_congr (hhome : fs'.home = fs.home) (hhomeOf : fs'.homeOf = fs.homeOf)
    (h : ∀ key, overrides.gives key = false → key.heldIn rows = key.heldIn other) :
    chosen fs source destination rows overrides =
      chosen fs' source destination other overrides := by
  have hflag (key : Key) (hkey : overrides.gives key = false) :
      flagIn rows key = flagIn other key := by
    rw [flagIn, h key hkey, flagIn]
  have htext (key : Key) (hkey : overrides.gives key = false) :
      textIn rows key = textIn other key := by
    rw [textIn, h key hkey, textIn]
  have hfile : namedFile fs = namedFile fs' := by
    funext t
    rw [namedFile, namedFile, FileSystem.expandHome, FileSystem.expandHome, hhome, hhomeOf]
  rw [chosen, chosen, given_or_congr (hflag .full), given_or_congr (htext .license),
    given_or_congr (hflag .sort), given_or_congr (hflag .strictNames),
    given_or_congr (htext .outputName), htext .extension rfl, given_or_congr (htext .logLevel),
    hfile]
  congr 1
  apply given_or_congr
  intro hgiven
  rw [htext .logFile hgiven]

/-- The defaults pass every check, so that only what the invocation gives can be refused. -/
theorem assemble_defaults_iff :
    (∃ settings, assemble fs source destination overrides defaults = .ok settings) ↔
      overrides.Sound := by
  constructor
  · intro h
    obtain ⟨settings, h⟩ := h
    obtain ⟨license, outputName, extension, logLevel, logFile, hchecked, -⟩ :=
      assemble_eq_ok_iff.mp h
    have hname := (checkOutputName_eq_ok_iff.mp hchecked.outputName).1
    have hlevel := (checkLogLevel_eq_ok_iff.mp hchecked.logLevel).1
    constructor
    · intro t ht
      rwa [ht, Option.getD_some] at hname
    · intro t ht
      rwa [ht, Option.getD_some] at hlevel
  · intro h
    have hname : ∃ name,
        checkOutputName (overrides.outputName.getD (.of "docs.go")) = .ok name := by
      cases hgiven : overrides.outputName with
      | none => exact ⟨_, checkOutputName_eq_ok_iff.mpr ⟨by decide, rfl⟩⟩
      | some t => exact ⟨_, checkOutputName_eq_ok_iff.mpr ⟨h.outputName t hgiven, rfl⟩⟩
    have hlevel : ∃ level, checkLogLevel (overrides.logLevel.getD (.of "INFO")) = .ok level := by
      cases hgiven : overrides.logLevel with
      | none => exact ⟨_, checkLogLevel_eq_ok_iff.mpr ⟨by decide, rfl⟩⟩
      | some t => exact ⟨_, checkLogLevel_eq_ok_iff.mpr ⟨h.logLevel t hgiven, rfl⟩⟩
    obtain ⟨name, hname⟩ := hname
    obtain ⟨level, hlevel⟩ := hlevel
    have hchecked : Checked overrides defaults none name (.of ".md") level :=
      ⟨rfl, hname, by decide, hlevel⟩
    exact ⟨_, assemble_eq_ok_iff.mpr ⟨_, _, _, _, none, hchecked, rfl, rfl⟩⟩

end Choice

/-- Settings come from the invocation first, then from the settings file, then from the defaults.
What the file holds for a setting that the invocation gives makes no difference, and a missing file
is refused exactly if it was asked for. -/
theorem load_precedence (source destination : Path) (asked : Option Path) (base : Path)
    (overrides : Overrides) :
    (∀ fs settings, load fs source destination asked base overrides = .ok settings →
      ∃ rows, UsedRows fs asked base rows ∧
        (∀ key value, Key.heldIn key rows = some value → key.Takes value) ∧
        settings = chosen fs source destination rows overrides) ∧
    (∀ fs fs' rows other settings settings',
      fs'.home = fs.home → fs'.homeOf = fs.homeOf →
      UsedRows fs asked base rows → UsedRows fs' asked base other →
      (∀ key, overrides.gives key = false → key.heldIn rows = key.heldIn other) →
      load fs source destination asked base overrides = .ok settings →
      load fs' source destination asked base overrides = .ok settings' →
      settings = settings') ∧
    (∀ fs path, filePath fs asked base = .ok path → fs.pathExists path = .ok false →
      (load fs source destination asked base overrides =
          .error (.failure (.settings (.fileMissing path))) ↔ asked.isSome = true) ∧
      (asked = none →
        ((∃ settings, load fs source destination asked base overrides = .ok settings) ↔
          overrides.Sound))) := by
  have hchosen (fs : FileSystem) (settings : Settings)
      (h : load fs source destination asked base overrides = .ok settings) :
      ∃ rows, UsedRows fs asked base rows ∧
        (∀ key value, Key.heldIn key rows = some value → key.Takes value) ∧
        settings = chosen fs source destination rows overrides := by
    rw [load_eq] at h
    obtain ⟨merged, hmerged, h⟩ := bind_eq_ok_iff.mp h
    obtain ⟨rows, hrows, hmerge⟩ := mergedRows_eq_ok_iff.mp hmerged
    exact ⟨rows, hrows, chosen_of_assemble hrows.keysDiffer hmerge h⟩
  refine ⟨hchosen, ?_, ?_⟩
  · intro fs fs' rows other settings settings' hhome hhomeOf hrows hother hagree h h'
    obtain ⟨used, hused, -, hsettings⟩ := hchosen fs settings h
    obtain ⟨used', hused', -, hsettings'⟩ := hchosen fs' settings' h'
    -- The file determines its rows.
    have hsame : used = rows := hrows.unique hused
    have hsame' : used' = other := hother.unique hused'
    rw [hsettings, hsettings', hsame, hsame']
    exact chosen_congr hhome hhomeOf hagree
  · intro fs path hpath hmissing
    cases asked with
    | some file =>
      refine ⟨⟨fun _ => rfl, fun _ => load_of_unmerged (.missing hpath hmissing rfl)⟩, ?_⟩
      intro hnone
      cases hnone
    | none =>
      -- Without a file the defaults are left as they are, and they pass the checks.
      have hload : load fs source destination none base overrides =
          assemble fs source destination overrides defaults :=
        load_of_used (.none hpath rfl hmissing) (mergeRows_nil [] defaults)
      rw [hload]
      refine ⟨⟨fun h => ?_, fun h => ?_⟩, fun _ => assemble_defaults_iff⟩
      · obtain ⟨fault, hfault, hcheck⟩ := assemble_eq_failure h
        cases hfault
        cases hcheck
      · cases h

section Examples

def heldText : Bool → Text
  | true => .of "generation={full=true,sort=false}"
  | false => .of "generation={full=false,sort=false}"

def heldFile (full : Bool) : FileSystem := withSettingsFile (Utf8.encode (heldText full))

def here : Path := { names := [] }

/-- What is given counts although it is `false`, or empty. -/
def maskingOverrides : Overrides where
  full := some false
  license := some []

def maskedSettings : Settings where
  source := here
  destination := here
  license := some []
  sort := false

theorem heldIn_of_flagIn {rows : Rows} {key : Key} {b : Bool} (h : flagIn rows key = some b) :
    key.heldIn rows = some (.boolean b) := by
  obtain ⟨value, hvalue, hb⟩ := Option.bind_eq_some_iff.mp h
  cases value with
  | boolean c =>
    cases hb
    exact hvalue
  | _ => cases hb

/-- Of the settings that are not given the two files hold one, and the same for it. -/
theorem usedRows_heldText (full : Bool) :
    ∃ rows, UsedRows (heldFile full) none here rows ∧
      ∀ key, maskingOverrides.gives key = false →
        key.heldIn rows = if key = .sort then some (.boolean false) else none := by
  have hfile : (heldFile full).readFile { names := [fileName] } =
      .ok (Utf8.encode (heldText full)) := by
    cases full <;> decide +kernel
  have htext : Utf8.decode (Utf8.encode (heldText full)) = .ok (heldText full) := by
    cases full <;> decide +kernel
  have hheld : (Toml.read (heldText full)).toOption.map (fun rows =>
      (flagIn rows .sort,
        [Key.strictNames, .outputName, .extension, .logLevel, .logFile].all
          fun key => (key.heldIn rows).isNone)) = some (some false, true) := by
    cases full <;> decide +kernel
  cases hread : Toml.read (heldText full) with
  | error fault =>
    rw [hread] at hheld
    cases hheld
  | ok rows =>
    rw [hread] at hheld
    obtain ⟨hsort, hnone⟩ := Prod.mk.inj (Option.some.inj hheld)
    rw [List.all_eq_true] at hnone
    refine ⟨rows, .file rfl ⟨_, _, hfile, htext, hread⟩, ?_⟩
    intro key hkey
    cases key with
    | full => cases hkey
    | license => cases hkey
    | sort => exact heldIn_of_flagIn hsort
    | _ => exact Option.isNone_iff_eq_none.mp (hnone _ (by decide))

theorem load_precedence_masked :
    (load (heldFile true) here here none here maskingOverrides = .ok maskedSettings ∧
      ∃ rows, UsedRows (heldFile true) none here rows ∧
        maskedSettings = chosen (heldFile true) here here rows maskingOverrides) ∧
    (∃ settings,
      load (heldFile true) here here none here maskingOverrides = .ok settings ∧
      load (heldFile false) here here none here maskingOverrides = .ok settings) ∧
    load { home := here } here here (some { names := [fileName] }) here {} =
      .error (.failure (.settings (.fileMissing { names := [fileName] }))) ∧
    ∃ settings, load { home := here } here here none here {} = .ok settings := by
  have hload (full : Bool) :
      load (heldFile full) here here none here maskingOverrides = .ok maskedSettings := by
    cases full <;> decide +kernel
  obtain ⟨hchosen, hsame, -⟩ := load_precedence here here none here maskingOverrides
  refine ⟨⟨hload true, ?_⟩, ⟨maskedSettings, hload true, ?_⟩, ?_, ?_⟩
  · obtain ⟨rows, hrows, -, hsettings⟩ := hchosen _ _ (hload true)
    exact ⟨rows, hrows, hsettings⟩
  · -- The two files differ in `full` alone, which is given.
    obtain ⟨rows, hrows, hheld⟩ := usedRows_heldText true
    obtain ⟨other, hother, hheld'⟩ := usedRows_heldText false
    have hagree (key : Key) (hkey : maskingOverrides.gives key = false) :
        key.heldIn rows = key.heldIn other :=
      (hheld key hkey).trans (hheld' key hkey).symm
    obtain ⟨settings, hsettings⟩ : ∃ settings,
        load (heldFile false) here here none here maskingOverrides = .ok settings :=
      ⟨maskedSettings, hload false⟩
    have hhome (full full' : Bool) : (heldFile full').home = (heldFile full).home := rfl
    have hhomeOf (full full' : Bool) : (heldFile full').homeOf = (heldFile full).homeOf := rfl
    have heq := hsame _ _ _ _ _ _ (hhome _ _) (hhomeOf _ _) hrows hother hagree (hload true)
      hsettings
    rw [hsettings, heq]
  · obtain ⟨-, -, hmissing⟩ := load_precedence here here (some { names := [fileName] }) here {}
    have hpath : filePath { home := here } (some { names := [fileName] }) here =
        .ok { names := [fileName] } := by
      decide +kernel
    exact (hmissing { home := here } _ hpath (by decide +kernel)).1.mpr rfl
  · obtain ⟨-, -, hmissing⟩ := load_precedence here here none here {}
    refine ((hmissing { home := here } _ rfl (by decide +kernel)).2 rfl).mpr ?_
    constructor
    · intro t ht
      cases ht
    · intro t ht
      cases ht

end Examples

end Settings

end HelpText
