import HelpText.FileSystem.Access
import Mathlib.Logic.Basic

/-!
Writing a file. Where a path leads to a file or to a place for one, it leads to the new file once
that is written; so what was written can be read back, and its permissions can be set.
-/

namespace HelpText

namespace FileSystem

/-- What a place says of the file system it was found in. -/
def Place.IsIn (fs : FileSystem) : Place → Prop
  | .occupied location entry => fs.entryAt location = some entry
  | .free location _ => location ≠ [] ∧ fs.entryAt location = none

/-- Following pieces ends at what stands there, if going on from a link does. -/
theorem isIn_of_followPieces {fs : FileSystem} {followLast : Bool}
    {through : Location → List Text → Except Cause Place}
    (hthrough : ∀ start pieces place, through start pieces = .ok place → place.IsIn fs)
    {here : Location} {pieces : List Text} {place : Place}
    (h : followPieces fs followLast through here pieces = .ok place) : place.IsIn fs := by
  fun_induction followPieces fs followLast through here pieces with
  | case1 here entry hentry =>
    cases h
    exact hentry
  | case3 here piece rest _ ih => exact ih h
  | case4 here rest _ ih => exact ih h
  | case6 here piece rest _ _ _ location hentry _ =>
    cases h
    exact ⟨List.append_ne_nil_of_right_ne_nil _ (List.cons_ne_nil _ _), hentry⟩
  | case8 here piece rest _ _ _ location mode _ ih => exact ih h
  | case9 here piece _ _ _ location content mode hentry =>
    cases h
    exact hentry
  | case11 here piece rest _ _ _ location target hentry _ =>
    cases h
    exact hentry
  | case12 => exact hthrough _ _ _ h
  | _ => cases h

theorem isIn_of_follow {fs : FileSystem} {followLast : Bool} {links : Nat} {here : Location}
    {pieces : List Text} {place : Place}
    (h : fs.follow followLast links here pieces = .ok place) : place.IsIn fs := by
  -- A link is followed with one link less to follow.
  induction links generalizing here pieces place with
  | zero => exact isIn_of_followPieces (fun _ _ _ hthrough => by cases hthrough) h
  | succ links ih => exact isIn_of_followPieces (fun _ _ _ hthrough => ih hthrough) h

/-- A file at `location` can be written there: in the place of an old one, or in a free place. -/
def Place.Takes (location : Location) (place : Place) : Prop :=
  place = .free location false ∨ ∃ content mode, place = .occupied location (.file content mode)

theorem entryAt_put_self {fs : FileSystem} {location : Location} {entry : Entry}
    (hroot : location ≠ []) : (fs.put location entry).entryAt location = some entry := by
  rw [entryAt_put, if_neg hroot, if_pos rfl]

theorem entryAt_put_of_ne {fs : FileSystem} {location other : Location} {entry : Entry}
    (hne : other ≠ location) : (fs.put location entry).entryAt other = fs.entryAt other := by
  rw [entryAt_put, if_neg hne]
  split
  · next hroot => rw [hroot]; rfl
  · rfl

/-- Directories and links are kept where a file is written in a free place or over another file. -/
theorem entryAt_put_of_not_file {fs : FileSystem} {location other : Location} {entry : Entry}
    {content : List UInt8} {mode : Nat}
    (hplace : fs.entryAt location = none ∨
      ∃ old oldMode, fs.entryAt location = some (.file old oldMode))
    (hentry : fs.entryAt other = some entry) (hother : ∀ old oldMode, entry ≠ .file old oldMode) :
    (fs.put location (.file content mode)).entryAt other = some entry := by
  have hne : other ≠ location := by
    rintro rfl
    rcases hplace with hnone | ⟨old, oldMode, hfile⟩
    · simp [hnone] at hentry
    · rw [hfile, Option.some.injEq] at hentry
      exact hother old oldMode hentry.symm
  rw [entryAt_put_of_ne hne, hentry]

/-- Nothing on the way to a file or to a free place changes when the file is written. -/
theorem followPieces_put {fs : FileSystem} {location : Location} {content : List UInt8}
    {mode : Nat} {through through' : Location → List Text → Except Cause Place}
    (hroot : location ≠ [])
    (hplace : fs.entryAt location = none ∨
      ∃ old oldMode, fs.entryAt location = some (.file old oldMode))
    (hthrough : ∀ start pieces place, through start pieces = .ok place → place.Takes location →
      through' start pieces = .ok (.occupied location (.file content mode)))
    {here : Location} {pieces : List Text} {place : Place}
    (h : followPieces fs true through here pieces = .ok place) (htakes : place.Takes location) :
    followPieces (fs.put location (.file content mode)) true through' here pieces =
      .ok (.occupied location (.file content mode)) := by
  have hnew : (fs.put location (.file content mode)).entryAt location =
      some (.file content mode) := entryAt_put_self hroot
  fun_induction followPieces fs true through here pieces with
  | case1 here entry hentry =>
    cases h
    rcases htakes with hfree | ⟨old, oldMode, hold⟩
    · cases hfree
    · cases hold
      rw [followPieces, hnew]
  | case3 here piece rest hname ih =>
    rw [followPieces, if_pos hname]
    exact ih h
  | case4 here rest hname ih =>
    rw [followPieces, if_neg hname, if_pos rfl]
    exact ih h
  | case6 here piece rest hname hup hlong other hentry _ =>
    -- The walk ended at a free place, and the file stands there now.
    cases h
    rcases htakes with hfree | ⟨old, oldMode, hold⟩
    · simp only [Place.free.injEq, bne_eq_false_iff_eq] at hfree
      obtain ⟨rfl, rfl⟩ := hfree
      have hfile : (fs.put (here ++ [piece]) (.file content mode)).entryAt (here ++ [piece]) =
          some (.file content mode) := hnew
      rw [followPieces, if_neg hname, if_neg hup, if_neg hlong]
      simp only [other, hfile, ↓reduceIte]
    · cases hold
  | case8 here piece rest hname hup hlong other oldMode hentry ih =>
    -- A directory on the way, and a link below, are not what was written.
    have hdirectory : (fs.put location (.file content mode)).entryAt (here ++ [piece]) =
        some (.directory oldMode) := entryAt_put_of_not_file hplace hentry (by simp)
    rw [followPieces, if_neg hname, if_neg hup, if_neg hlong]
    simp only [hdirectory]
    exact ih h
  | case9 here piece hname hup hlong other old oldMode hentry =>
    -- The walk ended at the old file.
    cases h
    rcases htakes with hfree | ⟨_, _, hold⟩
    · cases hfree
    · simp only [Place.occupied.injEq] at hold
      obtain ⟨rfl, -⟩ := hold
      have hfile : (fs.put (here ++ [piece]) (.file content mode)).entryAt (here ++ [piece]) =
          some (.file content mode) := hnew
      rw [followPieces, if_neg hname, if_neg hup, if_neg hlong]
      simp only [other, hfile, ↓reduceIte]
  | case11 here piece rest hname hup hlong other target hentry hlast => simp at hlast
  | case12 here piece rest hname hup hlong other target hentry hlast start =>
    have hlink : (fs.put location (.file content mode)).entryAt (here ++ [piece]) =
        some (.link target) := entryAt_put_of_not_file hplace hentry (by simp)
    rw [followPieces, if_neg hname, if_neg hup, if_neg hlong]
    simp only [hlink, hlast]
    exact hthrough _ _ _ h htakes
  | _ => cases h

/-- A place that takes a file is free or holds one. -/
theorem Place.Takes.stands {fs : FileSystem} {place : Place} {location : Location}
    (htakes : place.Takes location) (hin : place.IsIn fs) :
    location ≠ [] ∧ (fs.entryAt location = none ∨
      ∃ old mode, fs.entryAt location = some (.file old mode)) := by
  rcases htakes with rfl | ⟨old, mode, rfl⟩
  · exact ⟨hin.1, Or.inl hin.2⟩
  · refine ⟨?_, Or.inr ⟨old, mode, hin⟩⟩
    rintro rfl
    cases hin

theorem follow_put {fs : FileSystem} {location : Location} {content : List UInt8} {mode : Nat}
    {links : Nat} {here : Location} {pieces : List Text} {place : Place}
    (h : fs.follow true links here pieces = .ok place) (htakes : place.Takes location) :
    (fs.put location (.file content mode)).follow true links here pieces =
      .ok (.occupied location (.file content mode)) := by
  have hstands := htakes.stands (isIn_of_follow h)
  induction links generalizing here pieces place with
  | zero =>
    exact followPieces_put hstands.1 hstands.2 (fun _ _ _ hthrough _ => by cases hthrough) h htakes
  | succ links ih =>
    exact followPieces_put hstands.1 hstands.2 (fun _ _ _ hthrough hplace => ih hthrough hplace) h
      htakes

theorem resolve_eq_ok_iff (fs : FileSystem) (followLast : Bool) (path : Path) (place : Place) :
    fs.resolve followLast path = .ok place ↔
      '\x00' ∉ path.text ∧ (Utf8.encode path.text).length ≤ maxPathLength ∧
        fs.follow followLast maxLinks (if path.root = [] then fs.working else []) path.names =
          .ok place := by
  rw [resolve]
  by_cases hnull : '\x00' ∈ path.text
  · simp [hnull]
  · by_cases hlong : (Utf8.encode path.text).length > maxPathLength
    · simp [hnull, hlong, Nat.not_le.mpr hlong]
    · rw [if_neg (by simpa using hnull), if_neg hlong]
      cases fs.follow followLast maxLinks (if path.root = [] then fs.working else []) path.names <;>
        simp [hnull, Nat.not_lt.mp hlong]

theorem isIn_of_resolve {fs : FileSystem} {followLast : Bool} {path : Path} {place : Place}
    (h : fs.resolve followLast path = .ok place) : place.IsIn fs :=
  isIn_of_follow ((resolve_eq_ok_iff _ _ _ _).mp h).2.2

theorem resolve_put {fs : FileSystem} {path : Path} {location : Location} {place : Place}
    (content : List UInt8) (mode : Nat) (h : fs.resolve true path = .ok place)
    (htakes : place.Takes location) :
    (fs.put location (.file content mode)).resolve true path =
      .ok (.occupied location (.file content mode)) := by
  obtain ⟨hnull, hlong, hfollow⟩ := (resolve_eq_ok_iff _ _ _ _).mp h
  exact (resolve_eq_ok_iff _ _ _ _).mpr ⟨hnull, hlong, follow_put hfollow htakes⟩

/-- What writing a file does: it puts the content where the path leads. -/
theorem writeFile_eq_ok {fs written : FileSystem} {path : Path} {content : List UInt8}
    (h : fs.writeFile path content = .ok written) :
    ∃ place location mode, fs.resolve true path = .ok place ∧ place.Takes location ∧
      written = fs.put location (.file content mode) := by
  rw [writeFile] at h
  split at h
  · next location old mode hplace =>
    cases h
    exact ⟨_, location, mode, hplace, Or.inr ⟨old, mode, rfl⟩, rfl⟩
  · cases h
  · cases h
  · next location hplace =>
    cases h
    exact ⟨_, location, Entry.newFileMode, hplace, Or.inl rfl, rfl⟩
  · cases h

theorem put_put (fs : FileSystem) (location : Location) (first second : Entry) :
    (fs.put location first).put location second = fs.put location second := by
  simp only [put, Table.put_put]

/-- A file that was written is given other permission bits in its place, or they are fixed. -/
theorem setMode_put {fs : FileSystem} {path : Path} {location : Location} {place : Place}
    (content : List UInt8) (old mode : Nat) (h : fs.resolve true path = .ok place)
    (htakes : place.Takes location) :
    (fs.put location (.file content old)).setMode path mode =
      if fs.platform.fixesBits location then .error (.system .notPermitted path.text)
      else .ok (fs.put location (.file content (maskBits mode))) := by
  rw [setMode, resolve_put content old h htakes]
  simp only [Entry.withMode, put_put]
  rfl

end FileSystem

end HelpText
