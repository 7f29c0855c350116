import HelpText.Proofs.FileSystem.Walk
import Mathlib.Data.Option.Basic

/-!
File systems that grow. What stands stays where it is, so paths that led to something lead there
still. Main statement: making a directory with those above it adds directories only, and only where
a beginning of the path leads.
-/

namespace HelpText

namespace FileSystem

/-- Entries that make no difference to following a path. -/
def Alike (entry other : Entry) : Prop :=
  entry = other ∨ isFile entry = true ∧ isFile other = true

theorem Alike.refl (entry : Entry) : Alike entry entry := Or.inl rfl

theorem Alike.trans {first second third : Entry} (h : Alike first second)
    (h' : Alike second third) : Alike first third := by
  rcases h with rfl | ⟨hfirst, hsecond⟩
  · exact h'
  · rcases h' with rfl | ⟨-, hthird⟩
    · exact Or.inr ⟨hfirst, hsecond⟩
    · exact Or.inr ⟨hfirst, hthird⟩

theorem Alike.of_directory {mode : Nat} {entry : Entry} (h : Alike (.directory mode) entry) :
    entry = .directory mode := by
  rcases h with rfl | ⟨hfile, -⟩
  · rfl
  · cases hfile

theorem Alike.of_link {target : Text} {entry : Entry} (h : Alike (.link target) entry) :
    entry = .link target := by
  rcases h with rfl | ⟨hfile, -⟩
  · rfl
  · cases hfile

theorem Alike.of_file {content : List UInt8} {mode : Nat} {entry : Entry}
    (h : Alike (.file content mode) entry) : ∃ other mode', entry = .file other mode' := by
  rcases h with rfl | ⟨-, hfile⟩
  · exact ⟨content, mode, rfl⟩
  · cases entry with
    | file other mode' => exact ⟨other, mode', rfl⟩
    | directory => cases hfile
    | link => cases hfile

theorem Alike.isFile_eq {entry other : Entry} (h : Alike entry other) :
    isFile other = isFile entry := by
  rcases h with rfl | ⟨hfile, hother⟩
  · rfl
  · rw [hfile, hother]

/-- The locations of a walk look alike in both file systems. -/
def AlikeAt (fs fs' : FileSystem) (seen : List Location) : Prop :=
  (∀ location ∈ seen, fs.entryAt location = none → fs'.entryAt location = none) ∧
    ∀ location ∈ seen, ∀ entry, fs.entryAt location = some entry →
      ∃ other, fs'.entryAt location = some other ∧ Alike entry other

/-- The same place with what stands there in `fs`. -/
def Place.inside (fs : FileSystem) : Place → Place
  | .occupied location entry => .occupied location ((fs.entryAt location).getD entry)
  | .free location slashed => .free location slashed

section Walks

variable {fs fs' : FileSystem} {followLast : Bool} {links : Nat} {here : Location}
  {pieces : List Text} {seen : List Location} {result : Except Cause Place}

theorem AlikeAt.tail {location : Location} (h : AlikeAt fs fs' (location :: seen)) :
    AlikeAt fs fs' seen :=
  ⟨fun other hother => h.1 other (List.mem_cons_of_mem _ hother),
    fun other hother => h.2 other (List.mem_cons_of_mem _ hother)⟩

theorem AlikeAt.head {location : Location} {entry : Entry}
    (h : AlikeAt fs fs' (location :: seen)) (hentry : fs.entryAt location = some entry) :
    ∃ other, fs'.entryAt location = some other ∧ Alike entry other :=
  h.2 location (List.mem_cons_self ..) entry hentry

theorem AlikeAt.head_none {location : Location} (h : AlikeAt fs fs' (location :: seen))
    (hentry : fs.entryAt location = none) : fs'.entryAt location = none :=
  h.1 location (List.mem_cons_self ..) hentry

/-- A path is followed alike where alike entries are met. -/
theorem Walk.alike (h : Walk fs followLast links here pieces seen result)
    (hseen : AlikeAt fs fs' seen) :
    Walk fs' followLast links here pieces seen (result.map (Place.inside fs')) := by
  induction h with
  | @arrived links here entry h =>
    obtain ⟨other, hother, -⟩ := hseen.head h
    simp only [Except.map, Place.inside, hother]
    exact .arrived hother
  | lost h => exact .lost (hseen.head_none h)
  | skipped hname _ ih => exact .skipped hname (ih hseen)
  | up _ ih => exact .up (ih hseen)
  | tooLong hname hup hlong => exact .tooLong hname hup hlong
  | free hpiece hentry hrest => exact .free hpiece (hseen.head_none hentry) hrest
  | missing hpiece hentry hrest => exact .missing hpiece (hseen.head_none hentry) hrest
  | entered hpiece hentry _ ih =>
    obtain ⟨other, hother, halike⟩ := hseen.head hentry
    obtain rfl := halike.of_directory
    exact .entered hpiece hother (ih hseen.tail)
  | @file links here piece content mode hpiece hentry =>
    obtain ⟨other, hother, halike⟩ := hseen.head hentry
    obtain ⟨content', mode', rfl⟩ := halike.of_file
    simp only [Except.map, Place.inside, hother]
    exact .file hpiece hother
  | blocked hpiece hentry hrest =>
    obtain ⟨other, hother, halike⟩ := hseen.head hentry
    obtain ⟨content', mode', rfl⟩ := halike.of_file
    exact .blocked hpiece hother hrest
  | kept hpiece hentry hlast =>
    obtain ⟨other, hother, halike⟩ := hseen.head hentry
    obtain rfl := halike.of_link
    simp only [Except.map, Place.inside, hother]
    exact .kept hpiece hother hlast
  | exhausted hpiece hentry hfollow =>
    obtain ⟨other, hother, halike⟩ := hseen.head hentry
    obtain rfl := halike.of_link
    exact .exhausted hpiece hother hfollow
  | linked hpiece hentry hfollow _ ih =>
    obtain ⟨other, hother, halike⟩ := hseen.head hentry
    obtain rfl := halike.of_link
    exact .linked hpiece hother hfollow (ih hseen.tail)

/-- Something stands everywhere on a walk, but where it ends for want of an entry. -/
theorem Walk.stands (h : Walk fs followLast links here pieces seen result)
    (hfound : result ≠ .error .notFound) (hfree : ∀ location slashed,
      result ≠ .ok (.free location slashed)) :
    ∀ location ∈ seen, ∃ entry, fs.entryAt location = some entry := by
  induction h with
  | arrived h => exact List.forall_mem_singleton.mpr ⟨_, h⟩
  | lost => exact absurd rfl hfound
  | skipped _ _ ih => exact ih hfound hfree
  | up _ ih => exact ih hfound hfree
  | tooLong => simp
  | free => exact absurd rfl (hfree _ _)
  | missing => exact absurd rfl hfound
  | entered _ hentry _ ih => exact List.forall_mem_cons.mpr ⟨⟨_, hentry⟩, ih hfound hfree⟩
  | linked _ hentry _ _ ih => exact List.forall_mem_cons.mpr ⟨⟨_, hentry⟩, ih hfound hfree⟩
  | _ _ hentry => exact List.forall_mem_singleton.mpr ⟨_, hentry⟩

end Walks

/-- The process that sees both file systems is the same. -/
structure SameProcess (fs after : FileSystem) : Prop where
  working : after.working = fs.working
  home : after.home = fs.home
  homeOf : after.homeOf = fs.homeOf
  platform : after.platform = fs.platform
  listed : after.listed = fs.listed

theorem SameProcess.refl (fs : FileSystem) : SameProcess fs fs := ⟨rfl, rfl, rfl, rfl, rfl⟩

theorem SameProcess.trans {fs middle after : FileSystem} (h : SameProcess fs middle)
    (h' : SameProcess middle after) : SameProcess fs after :=
  ⟨h'.working.trans h.working, h'.home.trans h.home, h'.homeOf.trans h.homeOf,
    h'.platform.trans h.platform, h'.listed.trans h.listed⟩

theorem SameProcess.symm {fs after : FileSystem} (h : SameProcess fs after) :
    SameProcess after fs :=
  ⟨h.working.symm, h.home.symm, h.homeOf.symm, h.platform.symm, h.listed.symm⟩

theorem SameProcess.put (fs : FileSystem) (location : Location) (entry : Entry) :
    SameProcess fs (fs.put location entry) :=
  ⟨rfl, rfl, rfl, rfl, rfl⟩

theorem SameProcess.expandHome {fs after : FileSystem} (h : SameProcess fs after) (path : Path) :
    after.expandHome path = fs.expandHome path := by
  rw [FileSystem.expandHome, FileSystem.expandHome, h.home, h.homeOf]

/-- Everything stands in `after` where it stood in `fs`; only what files hold may have changed. -/
structure Grows (fs after : FileSystem) : Prop extends SameProcess fs after where
  stays : ∀ location entry, fs.entryAt location = some entry →
    ∃ other, after.entryAt location = some other ∧ Alike entry other

theorem Grows.refl (fs : FileSystem) : Grows fs fs :=
  ⟨.refl fs, fun _ entry hentry => ⟨entry, hentry, .refl entry⟩⟩

theorem Grows.trans {fs middle after : FileSystem} (h : Grows fs middle)
    (h' : Grows middle after) : Grows fs after := by
  refine ⟨h.toSameProcess.trans h'.toSameProcess, ?_⟩
  intro location entry hentry
  obtain ⟨between, hbetween, halike⟩ := h.stays location entry hentry
  obtain ⟨other, hother, halike'⟩ := h'.stays location between hbetween
  exact ⟨other, hother, halike.trans halike'⟩

theorem Grows.put_free {fs : FileSystem} {location : Location} {entry : Entry}
    (h : fs.entryAt location = none) : Grows fs (fs.put location entry) := by
  refine ⟨.put fs location entry, fun other found hfound => ⟨found, ?_, .refl found⟩⟩
  have hne : other ≠ location := by
    rintro rfl
    rw [h] at hfound
    cases hfound
  rw [entryAt_put_of_ne hne, hfound]

theorem Grows.put_file {fs : FileSystem} {location : Location} {old content : List UInt8}
    {oldMode mode : Nat} (h : fs.entryAt location = some (.file old oldMode)) :
    Grows fs (fs.put location (.file content mode)) := by
  refine ⟨.put fs location _, fun other found hfound => ?_⟩
  rw [entryAt_put]
  split
  · next hroot => exact ⟨found, by rw [← hfound, hroot]; rfl, .refl found⟩
  · split
    · next heq =>
      rw [heq, h] at hfound
      cases hfound
      exact ⟨_, rfl, Or.inr ⟨rfl, rfl⟩⟩
    · exact ⟨found, hfound, .refl found⟩

/-- Nothing goes where a file is written in a free place or over an old file. -/
theorem Grows.put_taken {fs : FileSystem} {location : Location} {content : List UInt8} {mode : Nat}
    (h : fs.entryAt location = none ∨
      ∃ old oldMode, fs.entryAt location = some (.file old oldMode)) :
    Grows fs (fs.put location (.file content mode)) := by
  rcases h with hnone | ⟨old, oldMode, hfile⟩
  · exact .put_free hnone
  · exact .put_file hfile

section Paths

variable {fs after : FileSystem} {followLast : Bool} {path : Path}

/-- The directory at which the walk of a path starts. -/
def startOf (fs : FileSystem) (path : Path) : Location :=
  if path.root = [] then fs.working else []

/-- The locations that are looked up where a path is followed. -/
def pathTrail (fs : FileSystem) (followLast : Bool) (path : Path) : List Location :=
  fs.trail followLast maxLinks (fs.startOf path) path.names

theorem resolve_eq_ok_iff_walk (fs : FileSystem) (followLast : Bool) (path : Path)
    (place : Place) :
    fs.resolve followLast path = .ok place ↔
      '\x00' ∉ path.text ∧ (Utf8.encode path.text).length ≤ maxPathLength ∧
        Walk fs followLast maxLinks (fs.startOf path) path.names
          (fs.pathTrail followLast path) (.ok place) := by
  rw [resolve_eq_ok_iff]
  refine and_congr_right fun _ => and_congr_right fun _ => ⟨fun h => ?_, Walk.eq_follow⟩
  have hwalk := walk_follow fs followLast maxLinks (fs.startOf path) path.names
  rwa [startOf, h] at hwalk

theorem startOf_eq (h : SameProcess fs after) (path : Path) :
    after.startOf path = fs.startOf path := by
  rw [startOf, startOf, h.working]

/-- A way to something is taken alike in a file system that has grown. -/
theorem Grows.walk_occupied (h : Grows fs after) {links : Nat} {here location : Location}
    {pieces : List Text} {seen : List Location} {entry : Entry}
    (hwalk : Walk fs followLast links here pieces seen (.ok (.occupied location entry))) :
    ∃ other, Alike entry other ∧
      Walk after followLast links here pieces seen (.ok (.occupied location other)) := by
  have hstands := hwalk.stands (by simp) (by simp)
  have halike : AlikeAt fs after seen := by
    constructor
    · intro location hlocation hnone
      obtain ⟨found, hfound⟩ := hstands location hlocation
      rw [hnone] at hfound
      cases hfound
    · exact fun location _ found hfound => h.stays location found hfound
  have hafter := hwalk.alike halike
  obtain ⟨other, hother, hlike⟩ := h.stays location entry (isIn_of_follow hwalk.eq_follow)
  simp only [Except.map, Place.inside, hother, Option.getD_some] at hafter
  exact ⟨other, hlike, hafter⟩

/-- A path that leads to something leads there in a file system that has grown, on the same way. -/
theorem Grows.resolve_occupied (h : Grows fs after) {location : Location} {entry : Entry}
    (hresolve : fs.resolve followLast path = .ok (.occupied location entry)) :
    ∃ other, Alike entry other ∧
      after.resolve followLast path = .ok (.occupied location other) := by
  obtain ⟨hnull, hlong, hwalk⟩ := (resolve_eq_ok_iff_walk _ _ _ _).mp hresolve
  obtain ⟨other, hlike, hafter⟩ := h.walk_occupied hwalk
  refine ⟨other, hlike, ?_⟩
  rw [← startOf_eq h.toSameProcess] at hafter
  exact (resolve_eq_ok_iff _ _ _ _).mpr ⟨hnull, hlong, hafter.eq_follow⟩

theorem Grows.pathTrail_eq (h : Grows fs after) {location : Location} {entry : Entry}
    (hresolve : fs.resolve followLast path = .ok (.occupied location entry)) :
    after.pathTrail followLast path = fs.pathTrail followLast path := by
  obtain ⟨-, -, hwalk⟩ := (resolve_eq_ok_iff_walk _ _ _ _).mp hresolve
  obtain ⟨other, -, hafter⟩ := h.walk_occupied hwalk
  rw [← startOf_eq h.toSameProcess] at hafter
  exact hafter.eq_trail

end Paths

end FileSystem

end HelpText
