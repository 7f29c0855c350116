import HelpText.Proofs.Settings.Loading

/-!
What interrupts loading. The settings are refused for everything that a check, the merge or a
refusal by the system foresees. The rest is listed here: a home that is unknown, a path too long to
be looked up, a file that is no text, and a number too long to be read.
-/

namespace HelpText

namespace Settings

variable {fs : FileSystem} {source destination : Path} {asked : Option Path} {base path : Path}
  {overrides : Overrides} {rows merged : Rows} {failure : Failure} {interruption : Interruption}

/-- What no check of the settings foresees. -/
inductive Unforeseen (fs : FileSystem) (asked : Option Path) (base : Path)
    (overrides : Overrides) : Interruption → Prop
  /-- The file that was asked for is to be found from a home that cannot be told. -/
  | home {path : Path} {fault : FileSystem.Fault} (hasked : asked = some path)
      (h : fs.expandHome path = .error fault) : Unforeseen fs asked base overrides (.path fault)
  /-- The path of the file, or a name on its way, is too long. -/
  | tooLong {path : Path} (hpath : filePath fs asked base = .ok path)
      (h : fs.resolve true path = .error (.system .nameTooLong path.text)) :
      Unforeseen fs asked base overrides (.path (.system .nameTooLong path.text))
  /-- The file is not UTF-8. -/
  | undecodable {path : Path} {bytes : List UInt8} {fault : Utf8.Fault}
      (hpath : filePath fs asked base = .ok path) (hbytes : fs.readFile path = .ok bytes)
      (h : Utf8.decode bytes = .error fault) : Unforeseen fs asked base overrides (.encoding fault)
  /-- The file has a number with too many digits. -/
  | longInteger {path : Path} {bytes : List UInt8} {t : Text} {digits : Nat}
      (hpath : filePath fs asked base = .ok path) (hbytes : fs.readFile path = .ok bytes)
      (htext : Utf8.decode bytes = .ok t) (h : Toml.read t = .error (.tooManyDigits digits)) :
      Unforeseen fs asked base overrides (.longInteger digits)
  /-- All else passes, and the log file named in the file is to be found from a home that cannot be
  told, be it used or not. -/
  | logHome {rows merged : Rows} {license : Option Text} {outputName extension logLevel t : Text}
      {fault : FileSystem.Fault} (hrows : UsedRows fs asked base rows)
      (hmerge : mergeRows [] defaults rows = (merged, none))
      (hchecked : Checked overrides merged license outputName extension logLevel)
      (hheld : Key.logFile.heldIn rows = some (.text t)) (hblank : Text.isBlank t = false)
      (h : fs.expandHome (Path.read (Text.trim t)) = .error fault) :
      Unforeseen fs asked base overrides (.path fault)

/-- A file that was found is one whose path has no NUL. -/
theorem not_null_of_pathExists (h : fs.pathExists path = .ok true) : '\x00' ∉ path.text := by
  intro hnull
  rw [FileSystem.pathExists_of_null hnull] at h
  cases h

theorem readRows_eq_interruption_iff (hfound : fs.pathExists path = .ok true) :
    readRows fs path = .error (.interruption interruption) ↔
      ∃ bytes, fs.readFile path = .ok bytes ∧
        ((∃ fault, Utf8.decode bytes = .error fault ∧ interruption = .encoding fault) ∨
          ∃ t digits, Utf8.decode bytes = .ok t ∧
            Toml.read t = .error (.tooManyDigits digits) ∧ interruption = .longInteger digits) := by
  rw [readRows]
  cases hfile : fs.readFile path with
  | error fault =>
    -- What was found can only be refused, and that is foreseen.
    have hrefusal := (FileSystem.isRefusal_of_readFile hfile).mpr (not_null_of_pathExists hfound)
    constructor
    · intro h
      split at h
      · cases h
      · next heq =>
        cases heq
        rw [Stop.ofFault, if_pos hrefusal] at h
        cases h
      · next heq => cases heq
    · intro h
      obtain ⟨bytes, hbytes, -⟩ := h
      cases hbytes
  | ok bytes =>
    simp only [Except.ok.injEq, exists_eq_left']
    cases hdecode : Utf8.decode bytes with
    | error fault => simp [eq_comm]
    | ok t =>
      cases hread : Toml.read t with
      | ok rows => simp [hread]
      | error fault => cases fault <;> simp [hread, eq_comm]

theorem readRows_eq_failure (h : readRows fs path = .error (.failure failure)) :
    ∃ fault, failure = .settings fault := by
  rw [readRows] at h
  split at h
  · cases h
    exact ⟨_, rfl⟩
  · next fault _ _ =>
    rw [Stop.ofFault] at h
    split at h
    · cases h
      exact ⟨_, rfl⟩
    · cases h
  · split at h
    · cases h
    · split at h
      · cases h
      · cases h
        exact ⟨_, rfl⟩
      · cases h

theorem logFileOf_eq_interruption_iff {value : Value} :
    logFileOf fs value = .error (.interruption interruption) ↔ ∃ t fault, value = .text t ∧
      Text.isBlank t = false ∧ fs.expandHome (Path.read (Text.trim t)) = .error fault ∧
      interruption = .path fault := by
  cases value with
  | text t =>
    rw [logFileOf]
    by_cases hblank : Text.isBlank t = true
    · simp [hblank]
    · cases hhome : fs.expandHome (Path.read (Text.trim t)) with
      | ok path => simp [hblank, hhome]
      | error fault =>
        rw [if_neg hblank]
        constructor
        · intro h
          cases h
          exact ⟨t, fault, rfl, (Bool.not_eq_true _).mp hblank, hhome, rfl⟩
        · intro h
          obtain ⟨other, cause, hother, -, hcause, rfl⟩ := h
          cases hother
          cases hhome.symm.trans hcause
          rfl
  | _ => simp [logFileOf]

/-- Before the rows are merged only the path and the text of the file can interrupt. -/
theorem unforeseen_of_unmerged (h : Unmerged fs asked base (.interruption interruption)) :
    Unforeseen fs asked base overrides interruption := by
  cases h with
  | home hasked h => exact .home hasked h
  | unseen hpath h =>
    obtain ⟨hresolve, rfl⟩ := (FileSystem.test_eq_error_iff fs _ _ _).mp h
    exact .tooLong hpath hresolve
  | unread hpath hfound h =>
    obtain ⟨bytes, hbytes, htext⟩ := (readRows_eq_interruption_iff hfound).mp h
    rcases htext with ⟨fault, hdecode, rfl⟩ | ⟨t, digits, hdecode, hread, rfl⟩
    · exact .undecodable hpath hbytes hdecode
    · exact .longInteger hpath hbytes hdecode hread

theorem heldIn_of_valueIn {key : Key} {value : Value} (hrows : UsedRows fs asked base rows)
    (hmerge : mergeRows [] defaults rows = (merged, none)) (h : key.valueIn merged = value)
    (hdefault : key.default ≠ value) : key.heldIn rows = some value := by
  rw [(valueIn_merged hrows.keysDiffer hmerge key).1] at h
  cases hheld : key.heldIn rows with
  | none =>
    rw [hheld] at h
    exact absurd h hdefault
  | some held =>
    rw [hheld, Option.getD_some] at h
    rw [h]

/-- Loading is interrupted in just these cases. -/
theorem load_eq_interruption_iff :
    load fs source destination asked base overrides = .error (.interruption interruption) ↔
      Unforeseen fs asked base overrides interruption := by
  constructor
  · intro h
    rw [load_eq] at h
    rcases bind_eq_error_iff.mp h with hmerged | ⟨merged, hmerged, h⟩
    · exact unforeseen_of_unmerged (mergedRows_eq_error_iff.mp hmerged)
    · obtain ⟨rows, hrows, hmerge⟩ := mergedRows_eq_ok_iff.mp hmerged
      obtain ⟨⟨license, outputName, extension, logLevel, hchecked⟩, hfile⟩ :=
        assemble_eq_interruption_iff.mp h
      obtain ⟨t, fault, hvalue, hblank, hhome, rfl⟩ := logFileOf_eq_interruption_iff.mp hfile
      -- The default is no text, so that it is the file that holds this one.
      have hheld := heldIn_of_valueIn hrows hmerge hvalue (by nofun)
      exact .logHome hrows hmerge hchecked hheld hblank hhome
  · intro h
    cases h with
    | home hasked h => exact load_of_unmerged (.home hasked h)
    | tooLong hpath h =>
      have hunseen := (FileSystem.test_eq_error_iff fs (fun _ => true) _ _).mpr ⟨h, rfl⟩
      exact load_of_unmerged (.unseen hpath hunseen)
    | undecodable hpath hbytes h =>
      have hfound := pathExists_of_readFile hbytes
      have hrows := (readRows_eq_interruption_iff hfound).mpr ⟨_, hbytes, Or.inl ⟨_, h, rfl⟩⟩
      exact load_of_unmerged (.unread hpath hfound hrows)
    | longInteger hpath hbytes htext h =>
      have hfound := pathExists_of_readFile hbytes
      have hrows := (readRows_eq_interruption_iff hfound).mpr
        ⟨_, hbytes, Or.inr ⟨_, _, htext, h, rfl⟩⟩
      exact load_of_unmerged (.unread hpath hfound hrows)
    | logHome hrows hmerge hchecked hheld hblank h =>
      have hvalue := (valueIn_merged hrows.keysDiffer hmerge .logFile).1
      rw [hheld, Option.getD_some] at hvalue
      have hfile := logFileOf_eq_interruption_iff.mpr ⟨_, _, hvalue, hblank, h, rfl⟩
      rw [load_of_used hrows hmerge]
      exact assemble_eq_interruption_iff.mpr ⟨⟨_, _, _, _, hchecked⟩, hfile⟩

/-- All that is foreseen is a fault of the settings. -/
theorem load_eq_failure
    (h : load fs source destination asked base overrides = .error (.failure failure)) :
    ∃ fault, failure = .settings fault := by
  rw [load_eq] at h
  rcases bind_eq_error_iff.mp h with hmerged | ⟨merged, -, h⟩
  · cases mergedRows_eq_error_iff.mp hmerged with
    | unread _ _ hrows => exact readRows_eq_failure hrows
    | refused => exact ⟨_, rfl⟩
    | missing => exact ⟨_, rfl⟩
  · obtain ⟨fault, hfault, -⟩ := assemble_eq_failure h
    exact ⟨fault, hfault⟩

end Settings

end HelpText
