import HelpText.Proofs.FileSystem.Directories
import HelpText.Proofs.FileSystem.Faults
import HelpText.Source
import Mathlib.Data.List.Basic

/-!
What a directory lists. Main statements: when a listing succeeds, and that new entries which are not
wanted leave the wanted ones as they were.
-/

namespace HelpText

namespace FileSystem

/-- The names of those locations that stand directly in a directory. -/
def namesOf (directory : Location) (locations : List Location) : List Text :=
  locations.filterMap fun location =>
    if location ≠ [] ∧ location.dropLast = directory then location.getLast? else none

theorem namesIn_eq (fs : FileSystem) (directory : Location) :
    fs.namesIn directory = fs.listed (namesOf directory fs.entries.keys) := by
  rw [namesIn, namesOf, Table.keys, List.filterMap_map]
  rfl

theorem mem_namesOf_iff (directory : Location) (locations : List Location) (name : Text) :
    name ∈ namesOf directory locations ↔ directory ++ [name] ∈ locations := by
  rw [namesOf, List.mem_filterMap]
  constructor
  · rintro ⟨location, hlocation, hname⟩
    split at hname
    · next hin =>
      have hwhole := List.dropLast_append_getLast? name hname
      rw [hin.2] at hwhole
      rwa [hwhole]
    · cases hname
  · intro h
    exact ⟨directory ++ [name], h, by simp⟩

theorem mem_namesIn_iff (fs : FileSystem) (directory : Location) (name : Text) :
    name ∈ fs.namesIn directory ↔ directory ++ [name] ∈ fs.entries.keys := by
  rw [namesIn_eq, (fs.listed_perm _).mem_iff, mem_namesOf_iff]

theorem mem_keys_iff (fs : FileSystem) {location : Location} (h : location ≠ []) :
    location ∈ fs.entries.keys ↔ ∃ entry, fs.entryAt location = some entry := by
  rw [Table.mem_keys_iff, Option.isSome_iff_exists, entryAt, if_neg h]

/-- New entries come behind the old ones. -/
def Appends (fs after : FileSystem) : Prop :=
  ∃ added, after.entries.keys = fs.entries.keys ++ added ∧
    ∀ location ∈ added, location ∉ fs.entries.keys

theorem Appends.refl (fs : FileSystem) : Appends fs fs := ⟨[], by simp, by simp⟩

theorem Appends.trans {fs middle after : FileSystem} (h : Appends fs middle)
    (h' : Appends middle after) : Appends fs after := by
  obtain ⟨first, hfirst, hnew⟩ := h
  obtain ⟨second, hsecond, hnew'⟩ := h'
  refine ⟨first ++ second, by rw [hsecond, hfirst, List.append_assoc], ?_⟩
  intro location hlocation hold
  rcases List.mem_append.mp hlocation with hin | hin
  · exact hnew location hin hold
  · refine hnew' location hin ?_
    rw [hfirst]
    exact List.mem_append_left _ hold

theorem Appends.put (fs : FileSystem) (location : Location) (entry : Entry) :
    Appends fs (fs.put location entry) := by
  rw [Appends, FileSystem.put, Table.keys_put]
  split
  · exact ⟨[], by simp, by simp⟩
  · next hnew => exact ⟨[location], rfl, by simpa using hnew⟩

theorem makePath_appends (fs : FileSystem) (existOk : Bool) (mode : Nat) (path : Path) :
    Appends fs (fs.makePath existOk mode path).1 := by
  refine makeDirectories_preserves .refl (fun _ _ _ => .trans) _ _ mode ?_ existOk fs
  intro fs beginning made _ hmake
  obtain ⟨location, slashed, -, rfl⟩ := makeDirectory_eq_ok hmake
  exact .put fs location _

theorem map_eq_ok_iff {α β ε : Type} (f : α → β) (result : Except ε α) (b : β) :
    result.map f = .ok b ↔ ∃ a, result = .ok a ∧ f a = b := by
  cases result <;> simp [Except.map]

theorem keepNames_eq_ok_iff (p : Text → Except Fault Bool) (names kept : List Text) :
    keepNames p names = .ok kept ↔
      (∀ name ∈ names, ∃ keep, p name = .ok keep) ∧
        kept = names.filter fun name => p name = .ok true := by
  induction names generalizing kept with
  | nil => simp [keepNames, eq_comm]
  | cons name names ih =>
    rw [keepNames, List.forall_mem_cons]
    cases hname : p name with
    | error fault => simp
    | ok keep =>
      simp only [map_eq_ok_iff, ih]
      constructor
      · rintro ⟨rest, ⟨hall, rfl⟩, rfl⟩
        refine ⟨⟨⟨keep, rfl⟩, hall⟩, ?_⟩
        cases keep <;> simp [hname]
      · rintro ⟨⟨-, hall⟩, rfl⟩
        refine ⟨_, ⟨hall, rfl⟩, ?_⟩
        cases keep <;> simp [hname]

/-- The path of a directory's entry. -/
def entryPath (directory : Path) (name : Text) : Path := directory ++ { names := [name] }

theorem name_entryPath (directory : Path) (name : Text) :
    (entryPath directory name).name = name := by
  change (directory.names ++ [name]).getLastD [] = name
  simp

/-- A listing succeeds where every entry of the directory can be examined. -/
theorem listFiles_eq_ok_iff (fs : FileSystem) (directory : Path) (listing : List Path) :
    fs.listFiles directory = .ok listing ↔
      ∃ location mode, fs.resolve true directory = .ok (.occupied location (.directory mode)) ∧
        (∀ name ∈ fs.namesIn location,
          ∃ isFile, fs.entryIsFile location directory name = .ok isFile) ∧
        listing = ((fs.namesIn location).filter fun name =>
          fs.entryIsFile location directory name = .ok true).map (entryPath directory) := by
  rw [listFiles]
  split
  · next location mode hresolve =>
    simp only [hresolve, map_eq_ok_iff, keepNames_eq_ok_iff]
    constructor
    · rintro ⟨kept, ⟨hall, rfl⟩, rfl⟩
      exact ⟨location, mode, rfl, hall, rfl⟩
    · rintro ⟨other, mode', heq, hall, rfl⟩
      cases heq
      exact ⟨_, ⟨hall, rfl⟩, rfl⟩
  · next location entry hother hresolve =>
    simp only [hresolve, reduceCtorEq, false_iff]
    rintro ⟨other, mode, heq, -⟩
    cases heq
    exact hother _ rfl
  · next hresolve => simp [hresolve]
  · next hresolve => simp [hresolve]

section Names

variable {fs after : FileSystem} {directory : Location} {wanted wanted' : Text → Bool}

/-- Names that are new and not wanted add nothing to the wanted ones. -/
theorem filter_namesIn_perm (happends : Appends fs after)
    (hold : ∀ name ∈ fs.namesIn directory, wanted' name = wanted name)
    (hnew : ∀ name ∈ after.namesIn directory, name ∉ fs.namesIn directory → wanted' name = false) :
    ((after.namesIn directory).filter wanted').Perm ((fs.namesIn directory).filter wanted) := by
  obtain ⟨added, hkeys, hadded⟩ := happends
  have hnames : namesOf directory after.entries.keys =
      namesOf directory fs.entries.keys ++ namesOf directory added := by
    rw [hkeys, namesOf, List.filterMap_append]
    rfl
  have hnone : (namesOf directory added).filter wanted' = [] := by
    rw [List.filter_eq_nil_iff]
    intro name hname
    have hin := (mem_namesOf_iff directory added name).mp hname
    have hfresh : name ∉ fs.namesIn directory := by
      rw [mem_namesIn_iff]
      exact hadded _ hin
    have hafter : name ∈ after.namesIn directory := by
      rw [mem_namesIn_iff, hkeys]
      exact List.mem_append_right _ hin
    rw [hnew name hafter hfresh]
    exact Bool.false_ne_true
  calc ((after.namesIn directory).filter wanted').Perm
        ((namesOf directory after.entries.keys).filter wanted') := by
        rw [namesIn_eq]
        exact (after.listed_perm _).filter _
    _ = (namesOf directory fs.entries.keys).filter wanted' := by
        rw [hnames, List.filter_append, hnone, List.append_nil]
    _ |>.Perm ((fs.namesIn directory).filter wanted') := by
        rw [namesIn_eq]
        exact ((fs.listed_perm _).filter _).symm
    _ = (fs.namesIn directory).filter wanted := List.filter_congr hold

/-- Where the old names keep their order, so do the wanted ones. -/
theorem filter_namesIn_eq
    (horder : (after.namesIn directory).filter (· ∈ fs.namesIn directory) = fs.namesIn directory)
    (hold : ∀ name ∈ fs.namesIn directory, wanted' name = wanted name)
    (hnew : ∀ name ∈ after.namesIn directory, name ∉ fs.namesIn directory → wanted' name = false) :
    (after.namesIn directory).filter wanted' = (fs.namesIn directory).filter wanted := by
  have hboth : (after.namesIn directory).filter wanted' =
      ((after.namesIn directory).filter (· ∈ fs.namesIn directory)).filter wanted' := by
    rw [List.filter_filter]
    refine List.filter_congr fun name hname => ?_
    by_cases hin : name ∈ fs.namesIn directory
    · simp [hin]
    · simp [hin, hnew name hname hin]
  rw [hboth, horder]
  exact List.filter_congr hold

end Names

section Entries

variable {fs after : FileSystem} {location : Location} {directory : Path} {name : Text}

/-- A file that is listed stays one. -/
theorem Grows.entryIsFile_of_true (h : Grows fs after)
    (hfile : fs.entryIsFile location directory name = .ok true) :
    after.entryIsFile location directory name = .ok true := by
  rw [entryIsFile] at hfile ⊢
  cases hentry : fs.entryAt (location ++ [name]) with
  | none =>
    rw [hentry] at hfile
    cases hfile
  | some entry =>
    obtain ⟨other, hother, halike⟩ := h.stays _ _ hentry
    rw [hentry] at hfile
    rw [hother]
    cases entry with
    | directory mode => cases hfile
    | file content mode =>
      obtain ⟨content', mode', rfl⟩ := halike.of_file
      rfl
    | link target =>
      obtain rfl := halike.of_link
      simp only at hfile ⊢
      split at hfile
      · next found entry hresolve =>
        obtain ⟨other, hlike, hafter⟩ := h.resolve_occupied hresolve
        simp only [hafter, hlike.isFile_eq]
        exact hfile
      all_goals cases hfile

theorem Grows.entryIsFile_eq (h : Grows fs after) (directory : Path) {entry : Entry}
    (hentry : fs.entryAt (location ++ [name]) = some entry)
    (hlink : ∀ target, entry ≠ .link target) :
    after.entryIsFile location directory name = fs.entryIsFile location directory name := by
  obtain ⟨other, hother, halike⟩ := h.stays _ _ hentry
  rw [entryIsFile, entryIsFile, hentry, hother]
  cases entry with
  | link target => exact absurd rfl (hlink target)
  | directory mode =>
    obtain rfl := halike.of_directory
    rfl
  | file content mode =>
    obtain ⟨content', mode', rfl⟩ := halike.of_file
    rfl

end Entries

end FileSystem

end HelpText
