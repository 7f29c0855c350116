import HelpText.Proofs.FileSystem.Addition
import HelpText.Proofs.FileSystem.NormalPath
import HelpText.Proofs.FileSystem.Ways

/-!
The permissions of new directories. Main statement: a directory that was made on the way to a path
has the permission bits that were asked for at the beginning of the path that leads there, with the
group bit of the directory above it, and in a tree a path without `..` has one such beginning only.
-/

namespace HelpText

namespace FileSystem

/-- What stands somewhere stands in something. -/
def IsTree (fs : FileSystem) : Prop :=
  ∀ location name, fs.entryAt location = none → fs.entryAt (location ++ [name]) = none

theorem IsTree.below {fs : FileSystem} (h : fs.IsTree) {location : Location}
    (hnone : fs.entryAt location = none) (names : List Text) :
    fs.entryAt (location ++ names) = none := by
  induction names generalizing location with
  | nil => rwa [List.append_nil]
  | cons name names ih =>
    rw [List.append_cons]
    exact ih (h location name hnone)

section Walks

variable {fs after : FileSystem} {followLast : Bool} {links : Nat} {here location : Location}
  {pieces : List Text} {seen : List Location} {entry : Entry}

/-- Where no link stands below, names that lead down end below. -/
theorem Walk.location_of_unlinked
    (h : Walk fs followLast links here pieces seen (.ok (.occupied location entry)))
    (hdown : ∀ piece ∈ pieces, Path.Descends piece)
    (hlink : ∀ names target, names ≠ [] → fs.entryAt (here ++ names) ≠ some (.link target)) :
    location = here ++ pieces := by
  generalize hresult : Except.ok (Place.occupied location entry) = result at h
  induction h with
  | arrived =>
    cases hresult
    exact (List.append_nil _).symm
  | skipped hname =>
    have hpiece := (hdown _ List.mem_cons_self).1
    rw [hname] at hpiece
    cases hpiece
  | up => exact absurd rfl (hdown _ List.mem_cons_self).2
  | @entered links here piece rest mode seen result hpiece hentry _ ih =>
    have hrest := ih (fun other hin => hdown other (List.mem_cons_of_mem _ hin)) (by
      intro names target hne
      rw [List.append_assoc]
      exact hlink _ target (List.append_ne_nil_of_left_ne_nil (List.cons_ne_nil _ _) _)) hresult
    rw [hrest, List.append_assoc]
    rfl
  | file =>
    cases hresult
    rfl
  | kept _ hentry => exact absurd hentry (hlink _ _ (List.cons_ne_nil _ _))
  | linked _ hentry => exact absurd hentry (hlink _ _ (List.cons_ne_nil _ _))
  | _ => cases hresult

end Walks

section Beginnings

variable {fs after : FileSystem} {location : Location}

/-- Behind a new directory a path goes on to other directories. -/
theorem nothing_behind {root : Text} {first more : List Text} {mode mode' : Nat}
    (htree : fs.IsTree) (hlinks : AddsNoLink fs after) (hfresh : fs.entryAt location = none)
    (hmore : ∀ name ∈ more, Path.Descends name)
    (hfirst : after.resolve true { root, names := first } =
      .ok (.occupied location (.directory mode)))
    (hwhole : after.resolve true { root, names := first ++ more } =
      .ok (.occupied location (.directory mode'))) : more = [] := by
  by_contra hne
  obtain ⟨left, hleft⟩ := (walk_of_resolve hfirst).continues
  obtain ⟨seen, hwalk⟩ := hleft hne (walk_follow after true left location more)
  obtain ⟨-, hresult⟩ := hwalk.unique (walk_of_resolve hwhole)
  have hlast := walk_follow after true left location more
  rw [hresult] at hlast
  -- What is new in the directory is no link, and there was nothing in it before.
  have hend : location = location ++ more := by
    apply hlast.location_of_unlinked hmore
    intro names target _ hentry
    have hold := hlinks _ _ hentry
    rw [htree.below hfresh] at hold
    cases hold
  exact hne (List.self_eq_append_right.mp hend)

/-- One beginning of a path alone leads to a new directory. -/
theorem beginning_unique {path : Path} {first second : List Text} {mode mode' : Nat}
    (htree : fs.IsTree) (hlinks : AddsNoLink fs after) (hfresh : fs.entryAt location = none)
    (hdown : ∀ name ∈ path.names, Path.Descends name)
    (hfirst : first <+: path.names) (hsecond : second <+: path.names)
    (hleads : after.resolve true { root := path.root, names := first } =
      .ok (.occupied location (.directory mode)))
    (hleads' : after.resolve true { root := path.root, names := second } =
      .ok (.occupied location (.directory mode'))) : first = second := by
  rcases List.prefix_or_prefix_of_prefix hfirst hsecond with ⟨more, rfl⟩ | ⟨more, rfl⟩
  · have hmore : more = [] := nothing_behind htree hlinks hfresh
      (fun name hin => hdown name (hsecond.subset (List.mem_append_right _ hin))) hleads hleads'
    rw [hmore, List.append_nil]
  · have hmore : more = [] := nothing_behind htree hlinks hfresh
      (fun name hin => hdown name (hfirst.subset (List.mem_append_right _ hin))) hleads' hleads
    rw [hmore, List.append_nil]

end Beginnings

section Founded

variable {fs after : FileSystem} {followLast : Bool} {links : Nat} {here location : Location}
  {pieces : List Text} {seen : List Location} {slashed : Bool}

theorem IsFounded.of_grows (h : IsFounded fs here) (hgrows : Grows fs after) :
    IsFounded after here := by
  intro above habove
  obtain ⟨mode, hmode⟩ := h above habove
  obtain ⟨entry, hentry, halike⟩ := hgrows.stays above _ hmode
  exact ⟨mode, by rw [hentry, halike.of_directory]⟩

theorem isFounded_startOf (h : IsFounded fs fs.working) (path : Path) :
    IsFounded fs (fs.startOf path) := by
  rw [startOf]
  split
  · exact h
  · exact isFounded_nil fs

/-- A free place is in a directory. -/
theorem Walk.isFounded_above
    (h : Walk fs followLast links here pieces seen (.ok (.free location slashed)))
    (hhere : IsFounded fs here) : IsFounded fs location.dropLast := by
  generalize hresult : Except.ok (Place.free location slashed) = result at h
  induction h with
  | skipped _ _ ih => exact ih hhere hresult
  | up _ ih => exact ih hhere.dropLast hresult
  | free =>
    cases hresult
    rwa [List.dropLast_concat]
  | entered _ hentry _ ih => exact ih (hhere.concat hentry) hresult
  | linked _ _ _ _ ih => exact ih (hhere.linkStart _) hresult
  | _ => cases hresult

end Founded

/-- Directories were made along a path, each with the permission bits that were asked for at the
beginning of the path that leads there, and with the group bit of the directory above it. -/
structure MadeWith (mode : Nat) (fs after : FileSystem) (path : Path) : Prop
    extends MadeAlong fs after path where
  modes : IsFounded fs (fs.startOf path) → ∀ location bits, fs.entryAt location = none →
    after.entryAt location = some (.directory bits) →
    ∃ names above, names <+: path.names ∧
      after.resolve true { root := path.root, names } =
        .ok (.occupied location (.directory bits)) ∧
      after.entryAt location.dropLast = some (.directory above) ∧
      bits = modeAt mode path.names names ||| (above &&& groupBit)

namespace MadeWith

variable {fs middle after : FileSystem} {path : Path} {mode : Nat}

theorem refl (mode : Nat) (fs : FileSystem) (path : Path) : MadeWith mode fs fs path := by
  refine ⟨.refl fs path, fun _ location bits hnone hstands => ?_⟩
  rw [hnone] at hstands
  cases hstands

theorem trans (h : MadeWith mode fs middle path) (h' : MadeWith mode middle after path) :
    MadeWith mode fs after path := by
  refine ⟨h.toMadeAlong.trans h'.toMadeAlong, fun hfounded location bits hnone hstands => ?_⟩
  cases hmiddle : middle.entryAt location with
  | none =>
    have hfounded' := hfounded.of_grows h.grows
    rw [← startOf_eq h.toSameProcess] at hfounded'
    exact h'.modes hfounded' location bits hmiddle hstands
  | some entry =>
    -- A directory made first is the same later, and the same beginning leads there.
    rcases h.entries location with hsame | ⟨-, first, hfirst, -⟩
    · rw [hsame, hnone] at hmiddle
      cases hmiddle
    · obtain ⟨names, above, hnames, hleads, habove, hbits⟩ :=
        h.modes hfounded location first hnone hfirst
      obtain ⟨other, halike, hleads'⟩ := h'.grows.resolve_occupied hleads
      obtain rfl := halike.of_directory
      obtain ⟨entry, hentry, halike'⟩ := h'.grows.stays _ _ habove
      obtain rfl := halike'.of_directory
      have hother : after.entryAt location = some (.directory first) := isIn_of_resolve hleads'
      rw [hstands] at hother
      cases hother
      exact ⟨names, above, hnames, hleads', hentry, hbits⟩

theorem of_makeDirectory {made : FileSystem} {beginning : List Text}
    (hbeginning : beginning <+: path.names)
    (h : fs.makeDirectory (modeAt mode path.names beginning) ⟨path.root, beginning⟩ = .ok made) :
    MadeWith mode fs made path := by
  have hmadeAlong := madeAlong_of_makeDirectory h
  refine ⟨hmadeAlong.extend hbeginning, fun hfounded other bits hnone hstands => ?_⟩
  obtain ⟨location, slashed, hplace, rfl⟩ := makeDirectory_eq_ok h
  by_cases heq : other = location
  · subst heq
    obtain ⟨hfree, hmade, hresolve⟩ := resolve_put_directory
      (modeAt mode path.names beginning ||| fs.inheritedBits other) hplace
    rw [hmade] at hstands
    cases hstands
    -- The directory above was there, and what it hands down is what the new one has.
    have hin := (walk_of_resolve hplace).isFounded_above hfounded
    obtain ⟨above, habove⟩ := hin _ (List.prefix_refl _)
    have hbits : fs.inheritedBits other = above &&& groupBit := by
      rw [inheritedBits, habove]
    have hne : other.dropLast ≠ other := by
      intro heq
      rw [heq, hfree] at habove
      cases habove
    rw [hbits] at hresolve ⊢
    refine ⟨beginning, above, hbeginning, hresolve, ?_, rfl⟩
    rw [entryAt_put_of_ne hne, habove]
  · rw [entryAt_put_of_ne heq, hnone] at hstands
    cases hstands

end MadeWith

theorem makePath_madeWith (fs : FileSystem) (existOk : Bool) (mode : Nat) (path : Path) :
    MadeWith mode fs (fs.makePath existOk mode path).1 path := by
  apply makeDirectories_preserves (R := fun fs after => MadeWith mode fs after path)
  · exact fun fs => .refl mode fs path
  · exact fun fs middle after h h' => h.trans h'
  · intro fs beginning made hbeginning hmake
    rw [List.reverse_reverse] at hbeginning hmake
    exact .of_makeDirectory hbeginning hmake

end FileSystem

end HelpText
