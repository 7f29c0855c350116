import HelpText.FileSystem.ReadText
import HelpText.Proofs.Text.Lines
import Mathlib.Logic.Basic

/-!
Which faults an operation can meet. A path with a NUL is never looked up; on any other path all that
can happen is a refusal by the system. Only a name or a path beyond the limits leaves open whether
something stands there.
-/

namespace HelpText

theorem Path.null_mem_text_iff (path : Path) :
    '\x00' ∈ path.text ↔ '\x00' ∈ path.root ∨ ∃ name ∈ path.names, '\x00' ∈ name := by
  rw [Path.text]
  split
  · next h => simp [h.1, h.2]
  · rw [List.mem_append, Text.mem_join_iff (by decide)]

namespace FileSystem

theorem resolve_eq_nullByte_iff (fs : FileSystem) (followLast : Bool) (path : Path) :
    fs.resolve followLast path = .error .nullByte ↔ '\x00' ∈ path.text := by
  rw [resolve]
  by_cases hnull : '\x00' ∈ path.text
  · simp [hnull]
  · rw [if_neg (by simpa using hnull)]
    split
    · simp [hnull]
    · cases fs.follow followLast maxLinks (if path.root = [] then fs.working else []) path.names <;>
        simp [hnull]

/-- A path without a NUL meets nothing but refusals, and these show the path. -/
theorem resolve_eq_error {fs : FileSystem} {followLast : Bool} {path : Path} {fault : Fault}
    (h : fs.resolve followLast path = .error fault) :
    (fault = .nullByte ∧ '\x00' ∈ path.text) ∨
      ∃ cause, fault = .system cause path.text ∧ '\x00' ∉ path.text := by
  by_cases hnull : '\x00' ∈ path.text
  · have hresolve := (resolve_eq_nullByte_iff fs followLast path).mpr hnull
    rw [hresolve] at h
    cases h
    exact Or.inl ⟨rfl, hnull⟩
  · refine Or.inr ?_
    rw [resolve, if_neg (by simpa using hnull)] at h
    split at h
    · cases h
      exact ⟨_, rfl, hnull⟩
    · cases hfollow :
        fs.follow followLast maxLinks (if path.root = [] then fs.working else []) path.names with
      | error cause =>
        rw [hfollow] at h
        cases h
        exact ⟨cause, rfl, hnull⟩
      | ok place =>
        rw [hfollow] at h
        cases h

theorem isRefusal_of_resolve {fs : FileSystem} {followLast : Bool} {path : Path} {fault : Fault}
    (h : fs.resolve followLast path = .error fault) :
    fault.isRefusal = true ↔ '\x00' ∉ path.text := by
  rcases resolve_eq_error h with ⟨rfl, hnull⟩ | ⟨cause, rfl, hnull⟩
  · simp [Fault.isRefusal, hnull]
  · simp [Fault.isRefusal, hnull]

/-- Where the path leads somewhere, a refusal is one of the operation itself. -/
theorem isRefusal_of_resolved {fs : FileSystem} {followLast : Bool} {path : Path} {place : Place}
    {fault : Fault} (h : fs.resolve followLast path = .ok place) (hfault : fault.isRefusal = true) :
    fault.isRefusal = true ↔ '\x00' ∉ path.text := by
  have hnull : '\x00' ∉ path.text := by
    intro hin
    rw [(resolve_eq_nullByte_iff fs followLast path).mpr hin] at h
    cases h
  simp only [hfault, hnull, not_false_eq_true]

/-- The faults of a look-up that say whether something stands at the path. -/
def Cause.IsMissing (cause : Cause) : Prop :=
  cause = .notFound ∨ cause = .notDirectory ∨ cause = .tooManyLinks

/-- Following a path fails because nothing stands there, or because of a name that is too long. -/
theorem cause_of_followPieces {fs : FileSystem} {followLast : Bool}
    {through : Location → List Text → Except Cause Place}
    (hthrough : ∀ start pieces cause, through start pieces = .error cause →
      cause.IsMissing ∨ cause = .nameTooLong)
    {here : Location} {pieces : List Text} {cause : Cause}
    (h : followPieces fs followLast through here pieces = .error cause) :
    cause.IsMissing ∨ cause = .nameTooLong := by
  fun_induction followPieces fs followLast through here pieces with
  | case2 here hentry =>
    cases h
    exact Or.inl (Or.inl rfl)
  | case3 here piece rest _ ih => exact ih h
  | case4 here rest _ ih => exact ih h
  | case5 here piece rest _ _ _ =>
    cases h
    exact Or.inr rfl
  | case7 here piece rest _ _ _ location _ _ =>
    cases h
    exact Or.inl (Or.inl rfl)
  | case8 here piece rest _ _ _ location mode _ ih => exact ih h
  | case10 here piece rest _ _ _ location content mode _ _ =>
    cases h
    exact Or.inl (Or.inr (Or.inl rfl))
  | case12 => exact hthrough _ _ _ h
  | _ => cases h

theorem cause_of_follow {fs : FileSystem} {followLast : Bool} {links : Nat} {here : Location}
    {pieces : List Text} {cause : Cause}
    (h : fs.follow followLast links here pieces = .error cause) :
    cause.IsMissing ∨ cause = .nameTooLong := by
  induction links generalizing here pieces cause with
  | zero =>
    refine cause_of_followPieces (fun _ _ _ hthrough => ?_) h
    cases hthrough
    exact Or.inl (Or.inr (Or.inr rfl))
  | succ links ih => exact cause_of_followPieces (fun _ _ _ hthrough => ih hthrough) h

/-- Nothing is said of a path only where it, or a name on its way, is too long. -/
theorem isDoubtful_of_resolve {fs : FileSystem} {followLast : Bool} {path : Path} {fault : Fault}
    (h : fs.resolve followLast path = .error fault) :
    fault.isDoubtful = true ↔ fault = .system .nameTooLong path.text := by
  rcases resolve_eq_error h with ⟨rfl, hnull⟩ | ⟨cause, rfl, hnull⟩
  · simp [Fault.isDoubtful]
  · -- The path is too long as a whole, or the walk says why it ended.
    have hcause : cause.IsMissing ∨ cause = .nameTooLong := by
      rw [resolve, if_neg (by simpa using hnull)] at h
      split at h
      · cases h
        exact Or.inr rfl
      · cases hfollow :
          fs.follow followLast maxLinks (if path.root = [] then fs.working else []) path.names with
        | error other =>
          rw [hfollow] at h
          cases h
          exact cause_of_follow hfollow
        | ok place =>
          rw [hfollow] at h
          cases h
    rcases hcause with (rfl | rfl | rfl) | rfl <;> simp [Fault.isDoubtful]

theorem test_eq_error_iff (fs : FileSystem) (p : Entry → Bool) (path : Path) (fault : Fault) :
    fs.test p path = .error fault ↔
      fs.resolve true path = .error fault ∧ fault = .system .nameTooLong path.text := by
  rw [test, entry?]
  cases hresolve : fs.resolve true path with
  | ok place => cases place <;> simp [Fault.isDoubtful]
  | error other =>
    have hdoubtful := isDoubtful_of_resolve hresolve
    by_cases h : other.isDoubtful = true
    · simp only [h, ↓reduceIte, Except.error.injEq]
      constructor
      · rintro rfl
        exact ⟨rfl, hdoubtful.mp h⟩
      · exact fun hboth => hboth.1
    · simp only [h, ↓reduceIte, Except.error.injEq, false_iff, Bool.false_eq_true, reduceCtorEq]
      rintro ⟨rfl, hlong⟩
      exact h (hdoubtful.mpr hlong)

/-- A look-up that a NUL prevents counts as one that finds nothing. -/
theorem pathExists_of_null {fs : FileSystem} {path : Path} (h : '\x00' ∈ path.text) :
    fs.pathExists path = .ok false := by
  rw [pathExists, test, entry?, (resolve_eq_nullByte_iff fs true path).mpr h]
  rfl

theorem readText_of_null {fs : FileSystem} {path : Path} (h : '\x00' ∈ path.text) :
    fs.readText path = .error (.access .nullByte) := by
  rw [readText, readFile, entry?, (resolve_eq_nullByte_iff fs true path).mpr h]

theorem isRefusal_of_readFile {fs : FileSystem} {path : Path} {fault : Fault}
    (h : fs.readFile path = .error fault) : fault.isRefusal = true ↔ '\x00' ∉ path.text := by
  rw [readFile, entry?] at h
  cases hresolve : fs.resolve true path with
  | error other =>
    rw [hresolve] at h
    cases h
    exact isRefusal_of_resolve hresolve
  | ok place =>
    rw [hresolve] at h
    refine isRefusal_of_resolved hresolve ?_
    rcases place with ⟨location, content | mode | target⟩ | _ <;> cases h <;> rfl

theorem null_of_readText {fs : FileSystem} {path : Path} {fault : Fault}
    (h : fs.readText path = .error (.access fault)) (hfault : fault.isRefusal = false) :
    '\x00' ∈ path.text := by
  rw [readText] at h
  cases hread : fs.readFile path with
  | ok bytes =>
    rw [hread] at h
    cases hdecode : Utf8.decode bytes <;> simp [hdecode] at h
  | error other =>
    rw [hread] at h
    cases h
    have hrefusal := isRefusal_of_readFile hread
    simpa [hfault] using hrefusal

theorem keepNames_fault {p : Text → Except Fault Bool} {names : List Text} {fault : Fault}
    (h : keepNames p names = .error fault) : ∃ name ∈ names, p name = .error fault := by
  induction names with
  | nil => cases h
  | cons name names ih =>
    rw [keepNames] at h
    cases hname : p name with
    | error other =>
      rw [hname] at h
      cases h
      exact ⟨name, List.mem_cons_self .., hname⟩
    | ok keep =>
      simp only [hname] at h
      cases hrest : keepNames p names with
      | ok kept => simp [hrest, Except.map] at h
      | error other =>
        rw [hrest] at h
        cases h
        obtain ⟨found, hfound, hfault⟩ := ih hrest
        exact ⟨found, List.mem_cons_of_mem _ hfound, hfault⟩

/-- Listing a directory meets a NUL or a refusal. -/
theorem listFiles_fault {fs : FileSystem} {directory : Path} {fault : Fault}
    (h : fs.listFiles directory = .error fault) : fault = .nullByte ∨ fault.isRefusal = true := by
  have hresolved {path : Path} {other : Fault} (hother : fs.resolve true path = .error other) :
      other = .nullByte ∨ other.isRefusal = true := by
    rcases resolve_eq_error hother with ⟨rfl, -⟩ | ⟨cause, rfl, -⟩
    · exact Or.inl rfl
    · exact Or.inr rfl
  rw [listFiles] at h
  split at h
  · next location mode hdirectory =>
    cases hkept : keepNames (fs.entryIsFile location directory) (fs.namesIn location) with
    | ok kept => simp [hkept, Except.map] at h
    | error other =>
      rw [hkept] at h
      cases h
      obtain ⟨name, -, hname⟩ := keepNames_fault hkept
      rw [entryIsFile] at hname
      split at hname
      · split at hname
        · cases hname
        · cases hname
        · cases hname
        · cases hname
          exact Or.inr rfl
        · next hlink =>
          cases hname
          exact hresolved hlink
      · cases hname
      · cases hname
  · cases h
    exact Or.inr rfl
  · cases h
    exact Or.inr rfl
  · next hdirectory =>
    cases h
    exact hresolved hdirectory

theorem isRefusal_of_writeFile {fs : FileSystem} {path : Path} {content : List UInt8}
    {fault : Fault} (h : fs.writeFile path content = .error fault) :
    fault.isRefusal = true ↔ '\x00' ∉ path.text := by
  rw [writeFile] at h
  cases hresolve : fs.resolve true path with
  | error other =>
    rw [hresolve] at h
    cases h
    exact isRefusal_of_resolve hresolve
  | ok place =>
    rw [hresolve] at h
    refine isRefusal_of_resolved hresolve ?_
    rcases place with ⟨location, content | mode | target⟩ | ⟨location, _ | _⟩ <;> cases h <;> rfl

theorem isRefusal_of_makeDirectory {fs : FileSystem} {mode : Nat} {path : Path} {fault : Fault}
    (h : fs.makeDirectory mode path = .error fault) :
    fault.isRefusal = true ↔ '\x00' ∉ path.text := by
  rw [makeDirectory] at h
  cases hresolve : fs.resolve false path with
  | error other =>
    rw [hresolve] at h
    cases h
    exact isRefusal_of_resolve hresolve
  | ok place =>
    rw [hresolve] at h
    refine isRefusal_of_resolved hresolve ?_
    cases place <;> cases h
    rfl

theorem isRefusal_of_unlessDirectory {fs : FileSystem} {existOk : Bool} {path : Path}
    {fault shown : Fault} (hfault : fault.isRefusal = true)
    (h : fs.unlessDirectory existOk path fault = some shown) : shown.isRefusal = true := by
  rw [unlessDirectory] at h
  split at h
  · split at h
    · cases h
    · cases h
      exact hfault
    · next other htest =>
      cases h
      rw [((test_eq_error_iff _ _ _ _).mp htest).2]
      rfl
  · cases h
    exact hfault

/-- Making a directory with those above it meets refusals only, unless its path holds a NUL; then
nothing is made. -/
theorem makeDirectories_fault {root : Text} {existOk : Bool} {mode : Nat} {names : List Text}
    {fs : FileSystem} (hnull : '\x00' ∉ Path.text ⟨root, names.reverse⟩) {fault : Fault}
    (h : (makeDirectories root existOk mode names fs).2 = some fault) :
    fault.isRefusal = true := by
  -- Those above the directory are made in the same way, and their path has no NUL either.
  induction names generalizing existOk mode fs fault with
  | nil =>
    rw [makeDirectories] at h
    cases hmake : fs.makeDirectory mode ⟨root, []⟩ with
    | ok made => simp [hmake] at h
    | error first =>
      simp only [hmake] at h
      exact isRefusal_of_unlessDirectory ((isRefusal_of_makeDirectory hmake).mpr hnull) h
  | cons last above ih =>
    have habove : '\x00' ∉ Path.text ⟨root, above.reverse⟩ := by
      rw [Path.null_mem_text_iff] at hnull ⊢
      rintro (hroot | ⟨name, hname, hin⟩)
      · exact hnull (Or.inl hroot)
      · exact hnull (Or.inr ⟨name, by simp_all, hin⟩)
    have hlater {made : FileSystem} {other : Fault}
        (hmake : made.makeDirectory mode ⟨root, (last :: above).reverse⟩ = .error other)
        (hshown : made.unlessDirectory existOk ⟨root, (last :: above).reverse⟩ other =
          some fault) : fault.isRefusal = true :=
      isRefusal_of_unlessDirectory ((isRefusal_of_makeDirectory hmake).mpr hnull) hshown
    rw [makeDirectories] at h
    split at h
    · cases h
    · split at h
      · next made shown habovefault =>
        exact ih habove (by rw [habovefault]; exact h)
      · next made _ =>
        split at h
        · cases h
        · cases h
          rfl
        · next other hmake => exact hlater hmake h
    · next other hmake => exact hlater hmake h

/-- Making a directory meets a fault that is no refusal exactly if its path holds a NUL. Then
nothing is made. -/
theorem makePath_fault (fs : FileSystem) (existOk : Bool) (mode : Nat) (path : Path) :
    ('\x00' ∈ path.text → fs.makePath existOk mode path = (fs, some .nullByte)) ∧
      ('\x00' ∉ path.text → ∀ fault, (fs.makePath existOk mode path).2 = some fault →
        fault.isRefusal = true) := by
  have hpath : (⟨path.root, path.names.reverse.reverse⟩ : Path) = path := by
    rw [List.reverse_reverse]
  refine ⟨fun hnull => ?_, fun hnull fault h => makeDirectories_fault (by rwa [hpath]) h⟩
  -- A NUL stops the first attempt, and nothing excuses it.
  have hmake : fs.makeDirectory mode path = .error .nullByte := by
    rw [makeDirectory, (resolve_eq_nullByte_iff fs false path).mpr hnull]
  have hexcuse : fs.unlessDirectory existOk path .nullByte = some .nullByte := by
    simp [unlessDirectory, Fault.isRefusal]
  rw [makePath]
  cases hnames : path.names.reverse with
  | nil =>
    rw [hnames] at hpath
    simp only [List.reverse_nil] at hpath
    rw [makeDirectories]
    simp only [hpath, hmake, hexcuse]
  | cons last above =>
    rw [hnames] at hpath
    rw [makeDirectories]
    simp only [hpath, hmake, hexcuse]

end FileSystem

end HelpText
