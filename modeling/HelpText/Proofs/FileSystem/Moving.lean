import HelpText.FileSystem.OpenFiles
import HelpText.Proofs.FileSystem.Outside

/-!
What opening and rotating a file does beside it. Main statements: removing and moving entries leave
everything as it is that is neither where they happen nor below that, and making a directory changes
nothing where it stands already.
-/

namespace HelpText

namespace FileSystem

/-- A location of the moved entries, in its new place. -/
def movedTo (source target location : Location) : Location :=
  if source.isPrefixOf location then target ++ location.drop source.length else location

theorem move_entries (fs : FileSystem) (source target : Location) :
    (fs.move source target).entries =
      (fs.erase target).entries.map fun item => (movedTo source target item.1, item.2) := by
  refine List.map_congr_left fun item _ => ?_
  simp only [movedTo]
  split <;> rfl

theorem get?_moved {source target location : Location} (htarget : ¬target <+: location)
    (entries : Table Location Entry) :
    Table.get? (entries.map fun item => (movedTo source target item.1, item.2)) location =
      if source <+: location then none else entries.get? location := by
  induction entries with
  | nil => simp [Table.get?]
  | cons row rest ih =>
    obtain ⟨other, entry⟩ := row
    rw [List.map_cons, Table.get?, Table.get?, ih]
    by_cases hsource : source <+: other
    · -- What is moved comes below the target, where nothing is looked for.
      have hmoved : location ≠ movedTo source target other := by
        rintro rfl
        rw [movedTo, if_pos (List.isPrefixOf_iff_prefix.mpr hsource)] at htarget
        exact htarget (List.prefix_append _ _)
      rw [if_neg hmoved]
      split
      · rfl
      · next hnot =>
        rw [if_neg]
        rintro rfl
        exact hnot hsource
    · have hstays : movedTo source target other = other := by
        rw [movedTo, if_neg (by rwa [List.isPrefixOf_iff_prefix])]
      rw [hstays]
      by_cases heq : location = other
      · subst heq
        simp [hsource]
      · simp [heq]

/-- Moving takes away what stood at the source and below it; beside the target and what is below it,
nothing else is other than before. -/
theorem entryAt_move (fs : FileSystem) {source target location : Location}
    (htarget : ¬target <+: location) :
    (fs.move source target).entryAt location =
      if location = [] then some (.directory Entry.newDirectoryMode)
      else if source <+: location then none else fs.entryAt location := by
  rw [entryAt]
  split
  · rfl
  · next hroot =>
    have hkept : (!target.isPrefixOf location) = true := by
      simpa [List.isPrefixOf_iff_prefix, ← Bool.not_eq_true] using htarget
    rw [move_entries, get?_moved htarget, erase, Table.get?_keepKeys, hkept, if_pos rfl, entryAt,
      if_neg hroot]

/-- What stood at the source stands at the target then. -/
theorem entryAt_move_target (fs : FileSystem) {source target : Location}
    (hsource : ¬source <+: target) (htarget : ¬target <+: source) :
    (fs.move source target).entryAt target = fs.entryAt source := by
  have hmoved (entries : Table Location Entry) (hkept : entries.get? target = none) :
      Table.get? (entries.map fun item => (movedTo source target item.1, item.2)) target =
        entries.get? source := by
    induction entries with
    | nil => rfl
    | cons row rest ih =>
      obtain ⟨other, entry⟩ := row
      rw [Table.get?] at hkept
      split at hkept
      · cases hkept
      · next hother =>
        rw [List.map_cons, Table.get?, Table.get?, ih hkept]
        by_cases hprefix : source <+: other
        · -- Only the source itself comes to stand right at the target.
          obtain ⟨below, rfl⟩ := hprefix
          have hplace : movedTo source target (source ++ below) = target ++ below := by
            rw [movedTo, if_pos (List.isPrefixOf_iff_prefix.mpr (List.prefix_append _ _)),
              List.drop_left]
          rw [hplace]
          simp only [List.self_eq_append_right]
        · have hstays : movedTo source target other = other := by
            rw [movedTo, if_neg (by rwa [List.isPrefixOf_iff_prefix])]
          have hne : source ≠ other := by
            rintro rfl
            exact hprefix (List.prefix_refl _)
          rw [hstays, if_neg hother, if_neg hne]
  -- What stood at the target before is erased first.
  have hsourceRoot : source ≠ [] := by
    rintro rfl
    exact hsource List.nil_prefix
  have htargetRoot : target ≠ [] := by
    rintro rfl
    exact htarget List.nil_prefix
  have hcleared : ((fs.erase target).entries).get? target = none := by
    rw [erase, Table.get?_keepKeys, if_neg (by simp)]
  have hkept : (!target.isPrefixOf source) = true := by
    simpa [List.isPrefixOf_iff_prefix, ← Bool.not_eq_true] using htarget
  rw [entryAt, if_neg htargetRoot, move_entries, hmoved _ hcleared, erase, Table.get?_keepKeys,
    hkept, if_pos rfl, entryAt, if_neg hsourceRoot]

section Outside

variable {touched : Location → Bool} {fs other : FileSystem} {location : Location}

theorem SameOutside.put (h : SameOutside touched fs other) (hlocation : touched location = true)
    (entry : Entry) : SameOutside touched fs (other.put location entry) := by
  refine ⟨⟨h.working, h.home, h.homeOf, h.platform, h.listed⟩, ?_⟩
  simp only [FileSystem.put, Table.keepKeys_put, hlocation, Bool.not_true, Bool.false_eq_true,
    ↓reduceIte, h.entries]

theorem SameOutside.erase (h : SameOutside touched fs other)
    (hbelow : ∀ below, location <+: below → touched below = true) :
    SameOutside touched fs (other.erase location) := by
  refine ⟨⟨h.working, h.home, h.homeOf, h.platform, h.listed⟩, ?_⟩
  rw [← h.entries, FileSystem.erase, Table.keepKeys, Table.keepKeys, Table.keepKeys,
    List.filter_filter]
  refine List.filter_congr fun row _ => ?_
  by_cases hprefix : location <+: row.1
  · simp [hbelow row.1 hprefix]
  · have hkept : location.isPrefixOf row.1 = false := by
      rwa [← Bool.not_eq_true, List.isPrefixOf_iff_prefix]
    simp [hkept]

theorem SameOutside.move (h : SameOutside touched fs other) {source target : Location}
    (hsource : ∀ below, source <+: below → touched below = true)
    (htarget : ∀ below, target <+: below → touched below = true) :
    SameOutside touched fs (other.move source target) := by
  have herase := h.erase htarget
  have hmoved (found : Location) : touched (movedTo source target found) = touched found := by
    rw [movedTo]
    split
    · next hprefix =>
      rw [hsource found (List.isPrefixOf_iff_prefix.mp hprefix),
        htarget _ (List.prefix_append _ _)]
    · rfl
  refine ⟨⟨h.working, h.home, h.homeOf, h.platform, h.listed⟩, ?_⟩
  rw [← herase.entries, move_entries, Table.keepKeys, Table.keepKeys, List.filter_map]
  have hsame : ((fun row : Location × Entry => !touched row.1) ∘
      fun item : Location × Entry => (movedTo source target item.1, item.2)) =
        fun row => !touched row.1 := by
    funext row
    simp only [Function.comp_apply, hmoved]
  rw [hsame]
  -- No entry that is kept is moved.
  have hkept : ∀ row ∈ (other.erase target).entries.filter (fun row => !touched row.1),
      (movedTo source target row.1, row.2) = row := by
    intro row hrow
    have huntouched : touched row.1 = false := by simpa using (List.mem_filter.mp hrow).2
    have hnot : ¬source <+: row.1 := by
      intro hprefix
      rw [hsource row.1 hprefix] at huntouched
      cases huntouched
    rw [movedTo, if_neg (by rwa [List.isPrefixOf_iff_prefix])]
  rw [List.map_congr_left hkept, List.map_id']

end Outside

/-- There is nothing to make where the directory stands. -/
theorem makePath_of_directory {fs : FileSystem} {path : Path} (mode : Nat)
    (h : fs.leadsTo isDirectory path = true) : fs.makePath true mode path = (fs, none) := by
  have htest : fs.test isDirectory path = .ok true := by
    rw [leadsTo] at h
    rw [test]
    cases hentry : fs.entry? path with
    | error fault =>
      rw [hentry] at h
      cases h
    | ok entry =>
      rw [hentry] at h
      exact congrArg Except.ok h
  have hmake : fs.makeDirectory mode path = .error (.system .exists path.text) := by
    rw [leadsTo, entry?] at h
    cases hresolve : fs.resolve true path with
    | error fault => simp [hresolve] at h
    | ok place =>
      cases place with
      | free => simp [hresolve] at h
      | occupied location entry =>
        obtain ⟨location', entry', hplace⟩ := resolve_unfollowed hresolve
        rw [makeDirectory, hplace]
  have hexcuse : fs.unlessDirectory true path (.system .exists path.text) = none := by
    simp [unlessDirectory, Fault.isRefusal, htest]
  have hpath : (⟨path.root, path.names.reverse.reverse⟩ : Path) = path := by
    rw [List.reverse_reverse]
  rw [makePath]
  cases hnames : path.names.reverse with
  | nil =>
    rw [hnames] at hpath
    simp only [List.reverse_nil] at hpath
    rw [makeDirectories]
    simp only [hpath, hmake, hexcuse]
  | cons last above =>
    rw [hnames] at hpath
    rw [makeDirectories]
    simp only [hpath, hmake, hexcuse]

end FileSystem

end HelpText
