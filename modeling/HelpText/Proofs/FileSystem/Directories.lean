import HelpText.Proofs.FileSystem.Growth

/-!
Making directories. Main statement: making a directory with those above it adds directories only,
each where a beginning of the path leads, whether it succeeds in the end or not.
-/

namespace HelpText

namespace FileSystem

section Walks

variable {fs after : FileSystem} {followLast : Bool} {links mode : Nat} {here location : Location}
  {pieces : List Text} {seen : List Location} {slashed : Bool}

/-- Slashes behind a name lead nowhere else. -/
theorem walk_slashes {entry : Entry} (hentry : fs.entryAt location = some entry)
    (hpieces : pieces.all List.isEmpty = true) :
    Walk fs followLast links location pieces [location] (.ok (.occupied location entry)) := by
  induction pieces with
  | nil => exact .arrived hentry
  | cons piece pieces ih =>
    obtain ⟨hpiece, hrest⟩ : piece.isEmpty = true ∧ pieces.all List.isEmpty = true := by
      simpa using hpieces
    obtain rfl : piece = [] := List.isEmpty_iff.mp hpiece
    exact .skipped rfl (ih hrest)

/-- A way that ended at a free place goes to the directory that stands there now. -/
theorem Walk.to_directory
    (h : Walk fs followLast links here pieces seen (.ok (.free location slashed)))
    (hgrows : Grows fs after) (hmade : after.entryAt location = some (.directory mode)) :
    ∃ seen',
      Walk after true links here pieces seen' (.ok (.occupied location (.directory mode))) := by
  generalize hresult : Except.ok (Place.free location slashed) = result at h
  induction h with
  | skipped hname _ ih =>
    obtain ⟨seen', hwalk⟩ := ih hresult
    exact ⟨seen', .skipped hname hwalk⟩
  | up _ ih =>
    obtain ⟨seen', hwalk⟩ := ih hresult
    exact ⟨seen', .up hwalk⟩
  | free hpiece hentry hrest =>
    cases hresult
    exact ⟨_, .entered hpiece hmade (walk_slashes hmade hrest)⟩
  | entered hpiece hentry _ ih =>
    obtain ⟨seen', hwalk⟩ := ih hresult
    obtain ⟨other, hother, halike⟩ := hgrows.stays _ _ hentry
    obtain rfl := halike.of_directory
    exact ⟨_, .entered hpiece hother hwalk⟩
  | linked hpiece hentry hfollow _ ih =>
    obtain ⟨seen', hwalk⟩ := ih hresult
    obtain ⟨other, hother, halike⟩ := hgrows.stays _ _ hentry
    obtain rfl := halike.of_link
    exact ⟨_, .linked hpiece hother (Or.inr rfl) hwalk⟩
  | _ => cases hresult

end Walks

/-- Directories were made in free places, each where a beginning of the path leads; all else is as
it was. -/
structure MadeAlong (fs after : FileSystem) (path : Path) : Prop extends SameProcess fs after where
  entries : ∀ location, after.entryAt location = fs.entryAt location ∨
    fs.entryAt location = none ∧ ∃ mode, after.entryAt location = some (.directory mode) ∧
      ∃ names, names <+: path.names ∧
        after.resolve true { root := path.root, names } = .ok (.occupied location (.directory mode))

namespace MadeAlong

variable {fs middle after : FileSystem} {path : Path}

theorem refl (fs : FileSystem) (path : Path) : MadeAlong fs fs path :=
  ⟨.refl fs, fun _ => Or.inl rfl⟩

theorem grows (h : MadeAlong fs after path) : Grows fs after := by
  refine ⟨h.toSameProcess, fun location entry hentry => ?_⟩
  rcases h.entries location with hsame | ⟨hnone, -⟩
  · exact ⟨entry, by rw [hsame, hentry], .refl entry⟩
  · rw [hnone] at hentry
    cases hentry

theorem trans (h : MadeAlong fs middle path) (h' : MadeAlong middle after path) :
    MadeAlong fs after path := by
  refine ⟨h.toSameProcess.trans h'.toSameProcess, fun location => ?_⟩
  rcases h'.entries location with hsame | ⟨hnone, hmade⟩
  · rcases h.entries location with hbefore | ⟨hnone, mode, hmode, names, hnames, hresolve⟩
    · exact Or.inl (hsame.trans hbefore)
    · -- A directory made first still stands where that beginning of the path leads.
      obtain ⟨other, halike, hresolve'⟩ := h'.grows.resolve_occupied hresolve
      obtain rfl := halike.of_directory
      exact Or.inr ⟨hnone, mode, hsame.trans hmode, names, hnames, hresolve'⟩
  · rcases h.entries location with hbefore | ⟨-, mode, hmode, -⟩
    · exact Or.inr ⟨by rw [← hbefore, hnone], hmade⟩
    · rw [hnone] at hmode
      cases hmode

theorem extend {beginning : List Text}
    (h : MadeAlong fs after { root := path.root, names := beginning })
    (hnames : beginning <+: path.names) : MadeAlong fs after path := by
  refine ⟨h.toSameProcess, fun location => ?_⟩
  rcases h.entries location with hsame | ⟨hnone, mode, hmode, names, hprefix, hresolve⟩
  · exact Or.inl hsame
  · exact Or.inr ⟨hnone, mode, hmode, names, hprefix.trans hnames, hresolve⟩

end MadeAlong

theorem makeDirectory_eq_ok {fs made : FileSystem} {mode : Nat} {path : Path}
    (h : fs.makeDirectory mode path = .ok made) :
    ∃ location slashed, fs.resolve false path = .ok (.free location slashed) ∧
      made = fs.put location (.directory (mode ||| fs.inheritedBits location)) := by
  rw [makeDirectory] at h
  split at h
  · cases h
  · next location slashed hplace =>
    cases h
    exact ⟨location, slashed, hplace, rfl⟩
  · cases h

/-- The path to a free place leads to the directory that is put there. -/
theorem resolve_put_directory {fs : FileSystem} {path : Path} {location : Location} {slashed : Bool}
    (bits : Nat) (h : fs.resolve false path = .ok (.free location slashed)) :
    fs.entryAt location = none ∧
      (fs.put location (.directory bits)).entryAt location = some (.directory bits) ∧
      (fs.put location (.directory bits)).resolve true path =
        .ok (.occupied location (.directory bits)) := by
  obtain ⟨hnull, hlong, hwalk⟩ := (resolve_eq_ok_iff_walk _ _ _ _).mp h
  obtain ⟨hroot, hfree⟩ := isIn_of_follow hwalk.eq_follow
  have hmade : (fs.put location (.directory bits)).entryAt location = some (.directory bits) :=
    entryAt_put_self hroot
  obtain ⟨seen, hto⟩ := hwalk.to_directory (.put_free hfree) hmade
  exact ⟨hfree, hmade, (resolve_eq_ok_iff _ _ _ _).mpr ⟨hnull, hlong, hto.eq_follow⟩⟩

theorem madeAlong_of_makeDirectory {fs made : FileSystem} {mode : Nat} {path : Path}
    (h : fs.makeDirectory mode path = .ok made) : MadeAlong fs made path := by
  obtain ⟨location, slashed, hplace, rfl⟩ := makeDirectory_eq_ok h
  obtain ⟨hfree, hmade, hresolve⟩ :=
    resolve_put_directory (mode ||| fs.inheritedBits location) hplace
  refine ⟨.put fs location _, fun other => ?_⟩
  by_cases heq : other = location
  · subst heq
    exact Or.inr ⟨hfree, _, hmade, path.names, List.prefix_refl _, hresolve⟩
  · exact Or.inl (entryAt_put_of_ne heq)

/-- The permission bits that are asked for at a beginning of the path: those of the directory
itself, or the usual ones above it. -/
def modeAt (mode : Nat) (names beginning : List Text) : Nat :=
  if beginning = names then mode else Entry.newDirectoryMode

theorem modeAt_self (mode : Nat) (names : List Text) : modeAt mode names names = mode := if_pos rfl

/-- Above the directory the usual permission bits are asked for, whatever is asked for itself. -/
theorem modeAt_above (mode : Nat) {last : Text} {above beginning : List Text}
    (h : beginning <+: above.reverse) :
    modeAt mode (last :: above).reverse beginning = Entry.newDirectoryMode := by
  apply if_neg
  rintro rfl
  have hlength := h.length_le
  simp only [List.length_reverse, List.length_cons] at hlength
  omega

/-- What holds across the making of every directory on the way holds across the making of all of
them, also where it fails. -/
theorem makeDirectories_preserves {R : FileSystem → FileSystem → Prop} (hrefl : ∀ fs, R fs fs)
    (htrans : ∀ fs middle after, R fs middle → R middle after → R fs after) (root : Text)
    (names : List Text) (mode : Nat)
    (hstep : ∀ fs beginning made, beginning <+: names.reverse →
      fs.makeDirectory (modeAt mode names.reverse beginning) ⟨root, beginning⟩ = .ok made →
        R fs made)
    (existOk : Bool) (fs : FileSystem) :
    R fs (makeDirectories root existOk mode names fs).1 := by
  -- Those above are made first, along a beginning of the path.
  induction names generalizing existOk mode fs with
  | nil =>
    rw [makeDirectories]
    split
    · next made hmake =>
      apply hstep fs [] made (List.prefix_refl _)
      exact (modeAt_self mode []).symm ▸ hmake
    · exact hrefl fs
  | cons last above ih =>
    have habove : above.reverse <+: (last :: above).reverse := by
      rw [List.reverse_cons]
      exact List.prefix_append _ _
    have hwhole (fs made : FileSystem) (hmake : fs.makeDirectory mode
        ⟨root, (last :: above).reverse⟩ = .ok made) : R fs made := by
      apply hstep fs _ made (List.prefix_refl _)
      rwa [modeAt_self]
    have hfirst := ih Entry.newDirectoryMode (fun fs beginning made hbeginning hmake => by
      apply hstep fs beginning made (hbeginning.trans habove)
      rw [modeAt, ite_self] at hmake
      rwa [modeAt_above mode hbeginning]) true fs
    rw [makeDirectories]
    split
    · next made hmake => exact hwhole fs made hmake
    · split
      · next made shown hmade =>
        rw [hmade] at hfirst
        exact hfirst
      · next made hmade =>
        rw [hmade] at hfirst
        split
        · next whole hmake => exact htrans _ _ _ hfirst (hwhole made whole hmake)
        · exact hfirst
        · exact hfirst
    · exact hrefl fs

/-- Making a directory with those above it makes directories along its path, and nothing else, also
where it fails. -/
theorem makeDirectories_madeAlong (root : Text) (existOk : Bool) (mode : Nat) (names : List Text)
    (fs : FileSystem) :
    MadeAlong fs (makeDirectories root existOk mode names fs).1 ⟨root, names.reverse⟩ := by
  apply makeDirectories_preserves (R := fun fs after => MadeAlong fs after ⟨root, names.reverse⟩)
  · exact fun fs => .refl fs _
  · exact fun fs middle after h h' => h.trans h'
  · exact fun fs beginning made hbeginning hmake =>
      MadeAlong.extend (madeAlong_of_makeDirectory hmake) hbeginning

theorem makePath_madeAlong (fs : FileSystem) (existOk : Bool) (mode : Nat) (path : Path) :
    MadeAlong fs (fs.makePath existOk mode path).1 path := by
  have h := makeDirectories_madeAlong path.root existOk mode path.names.reverse fs
  rwa [List.reverse_reverse] at h

end FileSystem

end HelpText
