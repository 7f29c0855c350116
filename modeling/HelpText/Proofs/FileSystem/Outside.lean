import HelpText.Proofs.FileSystem.Listing
import HelpText.Proofs.FileSystem.Trails

/-!
File systems that differ in some locations only. Main statements: a path whose trail meets none of
them leads to the same in both, and what is changed along such paths is changed in both alike.
-/

namespace HelpText

namespace FileSystem

/-- The two file systems are the same but for the `touched` locations. -/
structure SameOutside (touched : Location → Bool) (fs other : FileSystem) : Prop
    extends SameProcess fs other where
  entries : other.entries.keepKeys (fun location => !touched location) =
    fs.entries.keepKeys fun location => !touched location

/-- The way of the path, a link at its end followed, meets no touched location. -/
def Clear (touched : Location → Bool) (fs : FileSystem) (path : Path) : Prop :=
  ∀ location ∈ fs.pathTrail true path, touched location = false

instance (touched : Location → Bool) (fs : FileSystem) (path : Path) :
    Decidable (Clear touched fs path) :=
  inferInstanceAs (Decidable (∀ location ∈ fs.pathTrail true path, touched location = false))

section Reading

variable {touched : Location → Bool} {fs other after : FileSystem} {path : Path}

theorem SameOutside.refl (touched : Location → Bool) (fs : FileSystem) :
    SameOutside touched fs fs :=
  ⟨.refl fs, rfl⟩

theorem SameOutside.symm (h : SameOutside touched fs other) : SameOutside touched other fs :=
  ⟨h.toSameProcess.symm, h.entries.symm⟩

theorem SameOutside.trans (h : SameOutside touched fs other)
    (h' : SameOutside touched other after) :
    SameOutside touched fs after :=
  ⟨h.toSameProcess.trans h'.toSameProcess, h'.entries.trans h.entries⟩

theorem Clear.of_grows (h : Clear touched after path) (hgrows : Grows fs after) :
    Clear touched fs path :=
  fun location hlocation => h location (pathTrail_grows hgrows hlocation)

theorem SameOutside.entryAt_eq (h : SameOutside touched fs other) {location : Location}
    (hlocation : touched location = false) : other.entryAt location = fs.entryAt location := by
  have hget := congrArg (Table.get? · location) h.entries
  simp only [Table.get?_keepKeys, hlocation, Bool.not_false, ↓reduceIte] at hget
  rw [entryAt, entryAt, hget]

theorem SameOutside.resolve_eq (h : SameOutside touched fs other) (hclear : Clear touched fs path)
    (followLast : Bool) : other.resolve followLast path = fs.resolve followLast path := by
  refine resolve_congr h.toSameProcess fun location hlocation => h.entryAt_eq (hclear location ?_)
  cases followLast with
  | true => exact hlocation
  | false => exact pathTrail_unfollowed fs path hlocation

theorem SameOutside.entry?_eq (h : SameOutside touched fs other) (hclear : Clear touched fs path) :
    other.entry? path = fs.entry? path := by
  rw [ entry?, entry?, h.resolve_eq hclear]

theorem SameOutside.test_eq (h : SameOutside touched fs other) (hclear : Clear touched fs path)
    (p : Entry → Bool) : other.test p path = fs.test p path := by
  rw [test, test, h.entry?_eq hclear]

theorem SameOutside.readFile_eq (h : SameOutside touched fs other)
    (hclear : Clear touched fs path) : other.readFile path = fs.readFile path := by
  rw [readFile, readFile, h.entry?_eq hclear]

theorem SameOutside.readText_eq (h : SameOutside touched fs other)
    (hclear : Clear touched fs path) : other.readText path = fs.readText path := by
  rw [readText, readText, h.readFile_eq hclear]

theorem namesOf_keepKeys {directory : Location} {p : Location → Bool}
    (hdirect : ∀ location, p location = false → location.dropLast ≠ directory)
    (entries : Table Location Entry) :
    namesOf directory (entries.keepKeys p).keys = namesOf directory entries.keys := by
  induction entries with
  | nil => rfl
  | cons row rest ih =>
    obtain ⟨location, entry⟩ := row
    unfold namesOf Table.keepKeys Table.keys at ih ⊢
    cases hp : p location with
    | true => simp only [List.filter_cons, hp, ↓reduceIte, List.map_cons, List.filterMap_cons, ih]
    | false =>
      have hnot : ¬(location ≠ [] ∧ location.dropLast = directory) := fun hin => hdirect _ hp hin.2
      simp only [List.filter_cons, hp, Bool.false_eq_true, ↓reduceIte, List.map_cons,
        List.filterMap_cons, if_neg hnot, ih]

theorem SameOutside.namesIn_eq (h : SameOutside touched fs other) {directory : Location}
    (hdirect : ∀ location, touched location = true → location.dropLast ≠ directory) :
    other.namesIn directory = fs.namesIn directory := by
  have hkeep : ∀ location, (!touched location) = false → location.dropLast ≠ directory :=
    fun location hlocation => hdirect location (by simpa using hlocation)
  rw [FileSystem.namesIn_eq, FileSystem.namesIn_eq, h.listed, ← namesOf_keepKeys hkeep,
    ← namesOf_keepKeys hkeep fs.entries, h.entries]

theorem keepNames_congr {p q : Text → Except Fault Bool} {names : List Text}
    (h : ∀ name ∈ names, p name = q name) : keepNames p names = keepNames q names := by
  induction names with
  | nil => rfl
  | cons name names ih =>
    obtain ⟨hname, hrest⟩ := List.forall_mem_cons.mp h
    rw [keepNames, keepNames, hname, ih hrest]

/-- A directory lists the same where neither it nor one of its entries is touched on its way. -/
theorem SameOutside.listFiles_eq (h : SameOutside touched fs other) (hclear : Clear touched fs path)
    (hentries : ∀ directory entry, fs.resolve true path = .ok (.occupied directory entry) →
      (∀ location, touched location = true → location.dropLast ≠ directory) ∧
        ∀ name ∈ fs.namesIn directory, Clear touched fs (entryPath path name)) :
    other.listFiles path = fs.listFiles path := by
  rw [listFiles, listFiles, h.resolve_eq hclear]
  cases hresolve : fs.resolve true path with
  | error fault => rfl
  | ok place =>
    rcases place with ⟨directory, content | mode | target⟩ | _
    · rfl
    · obtain ⟨hdirect, hways⟩ := hentries directory _ hresolve
      have hexamined : ∀ name ∈ fs.namesIn directory,
          other.entryIsFile directory path name = fs.entryIsFile directory path name := by
        intro name hname
        have huntouched : touched (directory ++ [name]) = false := by
          rw [Bool.eq_false_iff]
          intro htouched
          exact hdirect _ htouched (by simp)
        have hway := h.resolve_eq (hways name hname) true
        rw [entryPath] at hway
        rw [entryIsFile, entryIsFile, h.entryAt_eq huntouched, hway]
      simp only [h.namesIn_eq hdirect, keepNames_congr hexamined]
    · rfl
    · rfl

end Reading

/-- Beside being the same elsewhere, `other` has at the touched locations what `start` has there.
What is in a touched directory is touched. -/
structure MovesWith (touched : Location → Bool) (start fs other : FileSystem) : Prop
    extends SameOutside touched fs other where
  below : ∀ location, touched location.dropLast = true → touched location = true
  kept : ∀ location, touched location = true → other.entryAt location = start.entryAt location

/-- Two operations both fail with the same fault, or lead to related file systems. -/
inductive Together (R : FileSystem → FileSystem → Prop) :
    Except Fault FileSystem → Except Fault FileSystem → Prop
  | ok {made made' : FileSystem} (h : R made made') : Together R (.ok made) (.ok made')
  | error (fault : Fault) : Together R (.error fault) (.error fault)

section Changing

variable {touched : Location → Bool} {start fs other after : FileSystem} {path : Path}

theorem MovesWith.put (h : MovesWith touched start fs other) {location : Location}
    (hlocation : touched location = false) (entry : Entry) :
    MovesWith touched start (fs.put location entry) (other.put location entry) := by
  refine ⟨⟨⟨h.working, h.home, h.homeOf, h.platform, h.listed⟩, ?_⟩, h.below,
    fun found hfound => ?_⟩
  · simp only [FileSystem.put, Table.keepKeys_put, h.entries]
  · have hne : found ≠ location := by
      rintro rfl
      rw [hfound] at hlocation
      cases hlocation
    rw [entryAt_put_of_ne hne, h.kept found hfound]

/-- A new directory takes the same over in both: the one above it is not touched either. -/
theorem MovesWith.inheritedBits_eq (h : MovesWith touched start fs other) {location : Location}
    (hlocation : touched location = false) :
    other.inheritedBits location = fs.inheritedBits location := by
  have habove : touched location.dropLast = false := by
    rw [Bool.eq_false_iff] at hlocation ⊢
    exact fun htouched => hlocation (h.below location htouched)
  rw [inheritedBits, inheritedBits, h.entryAt_eq habove]

theorem MovesWith.makeDirectory (h : MovesWith touched start fs other)
    (hclear : Clear touched fs path) (mode : Nat) :
    Together (MovesWith touched start) (fs.makeDirectory mode path)
      (other.makeDirectory mode path) := by
  have hresolve := h.resolve_eq hclear false
  rw [FileSystem.makeDirectory, FileSystem.makeDirectory, hresolve]
  cases hplace : fs.resolve false path with
  | error fault => exact .error fault
  | ok place =>
    have hlocation := hclear place.location
      (pathTrail_unfollowed fs path (location_mem_pathTrail hplace))
    cases place with
    | occupied => exact .error _
    | free location slashed =>
      have hbits : other.inheritedBits location = fs.inheritedBits location :=
        h.inheritedBits_eq hlocation
      simp only [hbits]
      exact .ok (h.put hlocation _)

theorem MovesWith.writeFile (h : MovesWith touched start fs other)
    (hclear : Clear touched fs path) (content : List UInt8) :
    Together (MovesWith touched start) (fs.writeFile path content)
      (other.writeFile path content) := by
  have hresolve := h.resolve_eq hclear true
  rw [FileSystem.writeFile, FileSystem.writeFile, hresolve]
  cases hplace : fs.resolve true path with
  | error fault => exact .error fault
  | ok place =>
    have hlocation := hclear place.location (location_mem_pathTrail hplace)
    rcases place with ⟨location, old | mode | target⟩ | ⟨location, _ | _⟩
    · exact .ok (h.put hlocation _)
    · exact .error _
    · exact .error _
    · exact .ok (h.put hlocation _)
    · exact .error _

theorem MovesWith.unlessDirectory_eq (h : MovesWith touched start fs other)
    (hclear : Clear touched fs path) (existOk : Bool) (fault : Fault) :
    other.unlessDirectory existOk path fault = fs.unlessDirectory existOk path fault := by
  rw [unlessDirectory, unlessDirectory, h.test_eq hclear]

/-- Directories are made in both alike, along a path that is clear in the end. -/
theorem MovesWith.makeDirectories (h : MovesWith touched start fs other) {root : Text}
    (existOk : Bool) (mode : Nat) {names : List Text}
    (hclear : ∀ beginning, beginning <+: names.reverse → Clear touched after ⟨root, beginning⟩)
    (hafter : Grows (makeDirectories root existOk mode names fs).1 after) :
    (FileSystem.makeDirectories root existOk mode names other).2 =
        (FileSystem.makeDirectories root existOk mode names fs).2 ∧
      MovesWith touched start (FileSystem.makeDirectories root existOk mode names fs).1
        (FileSystem.makeDirectories root existOk mode names other).1 := by
  induction names generalizing existOk mode fs other with
  | nil =>
    have hgrows := (makeDirectories_madeAlong root existOk mode [] fs).grows.trans hafter
    have hpath : Clear touched fs ⟨root, []⟩ := (hclear [] (List.prefix_refl _)).of_grows hgrows
    have hmake := h.makeDirectory hpath mode
    rw [FileSystem.makeDirectories, FileSystem.makeDirectories]
    generalize fs.makeDirectory mode ⟨root, []⟩ = result at hmake ⊢
    generalize other.makeDirectory mode ⟨root, []⟩ = result' at hmake ⊢
    cases hmake with
    | ok hmade => exact ⟨rfl, hmade⟩
    | error fault => exact ⟨h.unlessDirectory_eq hpath existOk fault, h⟩
  | cons last above ih =>
    have hgrows :=
      (makeDirectories_madeAlong root existOk mode (last :: above) fs).grows.trans hafter
    have hwhole := hclear (last :: above).reverse (List.prefix_refl _)
    have hmake := h.makeDirectory (hwhole.of_grows hgrows) mode
    have habove : ∀ beginning, beginning <+: above.reverse →
        Clear touched after ⟨root, beginning⟩ := by
      intro beginning hbeginning
      refine hclear beginning (hbeginning.trans ?_)
      rw [List.reverse_cons]
      exact List.prefix_append _ _
    rw [FileSystem.makeDirectories] at hafter
    rw [FileSystem.makeDirectories, FileSystem.makeDirectories]
    generalize fs.makeDirectory mode ⟨root, (last :: above).reverse⟩ = result at hmake hafter ⊢
    generalize other.makeDirectory mode ⟨root, (last :: above).reverse⟩ = result' at hmake ⊢
    cases hmake with
    | ok hmade => exact ⟨rfl, hmade⟩
    | error fault =>
      have hexcuse := h.unlessDirectory_eq (hwhole.of_grows hgrows) existOk fault
      by_cases hmissing : ∃ shown, fault = .system .notFound shown
      · obtain ⟨shown, rfl⟩ := hmissing
        simp only at hafter ⊢
        -- Those above are made in both, and then the directory is tried once more.
        have hfirst := ih h true Entry.newDirectoryMode habove
        generalize FileSystem.makeDirectories root true Entry.newDirectoryMode above fs = step
          at hfirst hafter ⊢
        generalize FileSystem.makeDirectories root true Entry.newDirectoryMode above other = step'
          at hfirst ⊢
        obtain ⟨made, _ | fault⟩ := step
        · have hmade : Grows made after := by
            simp only at hafter
            split at hafter
            · next whole hmake => exact (madeAlong_of_makeDirectory hmake).grows.trans hafter
            · exact hafter
            · exact hafter
          obtain ⟨made', found⟩ := step'
          obtain ⟨rfl, hmoved⟩ : found = none ∧ MovesWith touched start made made' := hfirst hmade
          have hagain := hmoved.makeDirectory (hwhole.of_grows hmade) mode
          have hexcuse (fault : Fault) :=
            hmoved.unlessDirectory_eq (hwhole.of_grows hmade) existOk fault
          simp only
          generalize made.makeDirectory mode ⟨root, (last :: above).reverse⟩ = again at hagain ⊢
          generalize made'.makeDirectory mode ⟨root, (last :: above).reverse⟩ = again' at hagain ⊢
          cases hagain with
          | ok hmade => exact ⟨rfl, hmade⟩
          | error fault =>
            rcases fault with ⟨cause, shown⟩ | _ | _
            · cases cause with
              | notFound => exact ⟨rfl, hmoved⟩
              | _ => exact ⟨hexcuse _, hmoved⟩
            · exact ⟨hexcuse _, hmoved⟩
            · exact ⟨hexcuse _, hmoved⟩
        · obtain ⟨made', found⟩ := step'
          obtain ⟨rfl, hmoved⟩ : found = some fault ∧ MovesWith touched start made made' :=
            hfirst hafter
          exact ⟨rfl, hmoved⟩
      · rcases fault with ⟨cause, shown⟩ | _ | _
        · cases cause with
          | notFound => exact absurd ⟨shown, rfl⟩ hmissing
          | _ => exact ⟨hexcuse, h⟩
        · exact ⟨hexcuse, h⟩
        · exact ⟨hexcuse, h⟩

theorem MovesWith.makePath (h : MovesWith touched start fs other) (existOk : Bool) (mode : Nat)
    (hclear : ∀ beginning, beginning <+: path.names → Clear touched after ⟨path.root, beginning⟩)
    (hafter : Grows (makePath fs existOk mode path).1 after) :
    (other.makePath existOk mode path).2 = (fs.makePath existOk mode path).2 ∧
      MovesWith touched start (fs.makePath existOk mode path).1
        (other.makePath existOk mode path).1 :=
  h.makeDirectories existOk mode (by rwa [List.reverse_reverse]) hafter

end Changing

end FileSystem

end HelpText
