import HelpText.Proofs.FileSystem.Outside

/-!
A new entry of a directory. Main statements: a path that meets the place of the entry led nowhere
before; the other names of the directory are listed and examined as before, but for links that lead
through the entry; and where a path does not meet the entry no beginning of it does.
-/

namespace HelpText

namespace FileSystem

section Walks

variable {fs : FileSystem} {followLast : Bool} {links : Nat} {here : Location}
  {pieces : List Text} {seen : List Location} {result : Except Cause Place}

/-- A walk that comes to a place where nothing stands goes no further. -/
theorem Walk.ends_at_nothing (h : Walk fs followLast links here pieces seen result)
    (hnone : ∃ location ∈ seen, fs.entryAt location = none) :
    (∃ location slashed, result = .ok (.free location slashed)) ∨ result = .error .notFound := by
  obtain ⟨location, hlocation, hnone⟩ := hnone
  have hhead {first : Location} {rest : List Location} {entry : Entry}
      (hmem : location ∈ first :: rest) (hentry : fs.entryAt first = some entry) :
      location ∈ rest := by
    rcases List.mem_cons.mp hmem with rfl | hrest
    · rw [hnone] at hentry
      cases hentry
    · exact hrest
  induction h with
  | arrived h => cases hhead hlocation h
  | lost => exact Or.inr rfl
  | skipped _ _ ih => exact ih hlocation
  | up _ ih => exact ih hlocation
  | tooLong => cases hlocation
  | free => exact Or.inl ⟨_, _, rfl⟩
  | missing => exact Or.inr rfl
  | entered _ hentry _ ih => exact ih (hhead hlocation hentry)
  | linked _ hentry _ _ ih => exact ih (hhead hlocation hentry)
  | file _ hentry => cases hhead hlocation hentry
  | blocked _ hentry => cases hhead hlocation hentry
  | kept _ hentry => cases hhead hlocation hentry
  | exhausted _ hentry => cases hhead hlocation hentry

end Walks

section Beginnings

variable {touched : Location → Bool} {fs : FileSystem}

/-- What stands below a touched location is touched. The root is not. -/
structure ReachesDown (touched : Location → Bool) : Prop where
  root : touched [] = false
  above : ∀ location name, touched (location ++ [name]) = false → touched location = false

theorem ReachesDown.dropLast (h : ReachesDown touched) {location : Location}
    (hlocation : touched location = false) : touched location.dropLast = false := by
  rcases List.eq_nil_or_concat' location with rfl | ⟨above, last, rfl⟩
  · exact hlocation
  · rw [List.dropLast_concat]
    exact h.above above last hlocation

theorem trailPieces_beginning (h : ReachesDown touched)
    {onward : Location → List Text → List Location} {more : List Text}
    (honward : ∀ here pieces, touched here = false →
      (∀ location ∈ onward here (pieces ++ more), touched location = false) →
        ∀ location ∈ onward here pieces, touched location = false)
    {here : Location} {pieces : List Text} (hhere : touched here = false)
    (hwhole : ∀ location ∈ trailPieces fs true onward here (pieces ++ more),
      touched location = false) :
    ∀ location ∈ trailPieces fs true onward here pieces, touched location = false := by
  induction pieces generalizing here with
  | nil =>
    rw [trailPieces]
    exact List.forall_mem_singleton.mpr hhere
  | cons piece rest ih =>
    rw [List.cons_append, trailPieces] at hwhole
    rw [trailPieces]
    by_cases hname : (!Path.isName piece) = true
    · rw [if_pos hname] at hwhole ⊢
      exact ih hhere hwhole
    rw [if_neg hname] at hwhole ⊢
    by_cases hup : piece = ['.', '.']
    · rw [if_pos hup] at hwhole ⊢
      exact ih (h.dropLast hhere) hwhole
    rw [if_neg hup] at hwhole ⊢
    by_cases hlong : (Utf8.encode piece).length > maxNameLength
    · rw [if_pos hlong]
      exact List.forall_mem_nil _
    rw [if_neg hlong] at hwhole ⊢
    obtain ⟨hfirst, hrest⟩ := List.forall_mem_cons.mp hwhole
    refine List.forall_mem_cons.mpr ⟨hfirst, ?_⟩
    cases hentry : fs.entryAt (here ++ [piece]) with
    | none => exact List.forall_mem_nil _
    | some entry =>
      rw [hentry] at hrest
      cases entry with
      | file content mode => exact List.forall_mem_nil _
      | directory mode => exact ih hfirst hrest
      | link target =>
        have hstart : touched (linkStart here target) = false := by
          rw [linkStart]
          split
          · exact hhere
          · exact h.root
        simp only [Bool.not_true, Bool.and_false, Bool.false_eq_true, ↓reduceIte] at hrest ⊢
        rw [← List.append_assoc] at hrest
        exact honward _ _ hstart hrest

theorem trail_beginning (h : ReachesDown touched) {links : Nat} {here : Location}
    {pieces more : List Text} (hhere : touched here = false)
    (hwhole : ∀ location ∈ fs.trail true links here (pieces ++ more), touched location = false) :
    ∀ location ∈ fs.trail true links here pieces, touched location = false := by
  induction links generalizing here pieces with
  | zero => exact trailPieces_beginning h (fun _ _ _ _ => List.forall_mem_nil _) hhere hwhole
  | succ links ih => exact trailPieces_beginning h (fun _ _ => ih) hhere hwhole

/-- A beginning of a clear path is clear. -/
theorem Clear.beginning (h : ReachesDown touched) (hworking : touched fs.working = false)
    {root : Text} {names names' : List Text} (hnames : names <+: names')
    (hclear : Clear touched fs ⟨root, names'⟩) : Clear touched fs ⟨root, names⟩ := by
  obtain ⟨more, rfl⟩ := hnames
  have hstart : touched (fs.startOf ⟨root, names⟩) = false := by
    rw [startOf]
    split
    · exact hworking
    · exact h.root
  exact trail_beginning h hstart hclear

end Beginnings

/-- Something new stands at the location, and maybe below it. -/
structure NewEntry (fs other : FileSystem) (location : Location) : Prop
    extends SameOutside location.isPrefixOf fs other where
  absent : ∀ below, location.isPrefixOf below = true → fs.entryAt below = none

section NewEntries

variable {fs other : FileSystem} {directory location : Location} {name : Text} {path : Path}

theorem reachesDown_isPrefixOf (hroot : location ≠ []) : ReachesDown location.isPrefixOf where
  root := by
    cases location with
    | nil => exact absurd rfl hroot
    | cons => rfl
  above := by
    intro above last h
    rw [Bool.eq_false_iff, ne_eq, List.isPrefixOf_iff_prefix] at h ⊢
    exact fun habove => h (habove.trans (List.prefix_append _ _))

/-- An entry is new if no entry stands there or below it. -/
theorem NewEntry.of_entries (hroot : location ≠ []) (hprocess : SameProcess fs other)
    (hentries : other.entries.keepKeys (fun found => !location.isPrefixOf found) = fs.entries)
    (hkeys : ∀ found ∈ fs.entries.keys, location.isPrefixOf found = false) :
    NewEntry fs other location := by
  refine ⟨⟨hprocess, ?_⟩, fun below hbelow => ?_⟩
  · rw [hentries, Table.keepKeys, eq_comm, List.filter_eq_self]
    intro row hrow
    rw [hkeys row.1 (List.mem_map_of_mem hrow), Bool.not_false]
  · have hne : below ≠ [] := by
      rintro rfl
      rw [(reachesDown_isPrefixOf hroot).root] at hbelow
      cases hbelow
    rw [entryAt, if_neg hne, Table.get?_eq_none]
    intro hmem
    rw [hkeys below hmem] at hbelow
    cases hbelow

/-- A path that leads somewhere without the entry does not meet it. -/
theorem NewEntry.clear_of_resolve (h : NewEntry fs other location) {found : Location}
    {entry : Entry} (hresolve : fs.resolve true path = .ok (.occupied found entry)) :
    Clear location.isPrefixOf fs path := by
  intro met hmet
  rw [Bool.eq_false_iff]
  intro htouched
  rcases (walk_of_resolve hresolve).ends_at_nothing ⟨met, hmet, h.absent met htouched⟩ with
    ⟨free, slashed, heq⟩ | heq
  · cases heq
  · cases heq

theorem not_touched_of_ne {n : Text} (hne : n ≠ name) :
    (directory ++ [name]).isPrefixOf (directory ++ [n]) = false := by
  rw [Bool.eq_false_iff, ne_eq, List.isPrefixOf_iff_prefix]
  intro hprefix
  have heq := hprefix.eq_of_length (by simp)
  exact hne (List.singleton_injective (List.append_cancel_left heq)).symm

/-- A path that meets the entry led nowhere without it. -/
theorem NewEntry.resolve_of_not_clear (h : NewEntry fs other location)
    (hclear : ¬Clear location.isPrefixOf fs path) (hnull : '\x00' ∉ path.text)
    (hlong : (Utf8.encode path.text).length ≤ maxPathLength) :
    (∃ free slashed, fs.resolve true path = .ok (.free free slashed)) ∨
      fs.resolve true path = .error (.system .notFound path.text) := by
  obtain ⟨met, hmet, htouched⟩ : ∃ met ∈ fs.pathTrail true path,
      location.isPrefixOf met = true := by
    simpa [Clear] using hclear
  have hfollow : fs.resolve true path =
      (fs.follow true maxLinks (fs.startOf path) path.names).mapError (.system · path.text) := by
    rw [resolve, if_neg (by simpa using hnull), if_neg (Nat.not_lt.mpr hlong), startOf]
  rw [hfollow]
  rcases (walk_path fs true path).ends_at_nothing ⟨met, hmet, h.absent met htouched⟩ with
    ⟨free, slashed, heq⟩ | heq
  · exact Or.inl ⟨free, slashed, by rw [heq]; rfl⟩
  · exact Or.inr (by rw [heq]; rfl)

/-- A link that can be examined has a path that can be followed. -/
theorem fits_of_entryIsFile {n target : Text} {isFile : Bool}
    (hentry : fs.entryAt (directory ++ [n]) = some (.link target))
    (h : fs.entryIsFile directory path n = .ok isFile) :
    '\x00' ∉ (entryPath path n).text ∧
      (Utf8.encode (entryPath path n).text).length ≤ maxPathLength := by
  rw [entryIsFile, hentry] at h
  simp only at h
  have hnull : '\x00' ∉ (entryPath path n).text := by
    intro hnull
    have hresolve := (resolve_eq_nullByte_iff fs true (entryPath path n)).mpr hnull
    rw [entryPath] at hresolve
    rw [hresolve] at h
    cases h
  refine ⟨hnull, ?_⟩
  by_contra hlong
  have hresolve : fs.resolve true (entryPath path n) =
      .error (.system .nameTooLong (entryPath path n).text) := by
    rw [resolve, if_neg (by simpa using hnull), if_pos (Nat.not_le.mp hlong)]
  rw [entryPath] at hresolve
  rw [hresolve] at h
  cases h

theorem NewEntry.entryIsFile_of_clear (h : NewEntry fs other (directory ++ [name])) {n : Text}
    (hne : n ≠ name) (hclear : Clear (directory ++ [name]).isPrefixOf fs (entryPath path n)) :
    other.entryIsFile directory path n = fs.entryIsFile directory path n := by
  have hway := h.resolve_eq hclear true
  rw [entryPath] at hway
  rw [entryIsFile, entryIsFile, h.entryAt_eq (not_touched_of_ne hne), hway]

/-- Any other entry is examined as before too, or it is a link that led nowhere before. -/
theorem NewEntry.entryIsFile_of_not_clear (h : NewEntry fs other (directory ++ [name])) {n : Text}
    (hne : n ≠ name) (hclear : ¬Clear (directory ++ [name]).isPrefixOf fs (entryPath path n))
    {isFile : Bool} (hexamined : other.entryIsFile directory path n = .ok isFile) :
    other.entryIsFile directory path n = fs.entryIsFile directory path n ∨
      fs.entryIsFile directory path n = .ok false := by
  have hentry := h.entryAt_eq (not_touched_of_ne hne)
  cases hstands : fs.entryAt (directory ++ [n]) with
  | none => exact Or.inl (by rw [entryIsFile, entryIsFile, hentry, hstands])
  | some entry =>
    cases entry with
    | file content mode => exact Or.inl (by rw [entryIsFile, entryIsFile, hentry, hstands])
    | directory mode => exact Or.inl (by rw [entryIsFile, entryIsFile, hentry, hstands])
    | link target =>
      obtain ⟨hnull, hlong⟩ := fits_of_entryIsFile (hentry.trans hstands) hexamined
      refine Or.inr ?_
      rw [entryIsFile, hstands]
      rcases h.resolve_of_not_clear hclear hnull hlong with ⟨free, slashed, hresolve⟩ | hresolve
      · rw [entryPath] at hresolve
        rw [hresolve]
      · rw [entryPath] at hresolve
        rw [hresolve]

theorem namesOf_cons_entry (directory : Location) (last : Text) (rest : List Location) :
    namesOf directory ((directory ++ [last]) :: rest) = last :: namesOf directory rest := by
  simp [namesOf]

theorem namesOf_cons_other {directory found : Location} (rest : List Location)
    (h : ¬(found ≠ [] ∧ found.dropLast = directory)) :
    namesOf directory (found :: rest) = namesOf directory rest := by
  rw [namesOf, List.filterMap_cons, if_neg h]
  rfl

theorem namesOf_without (directory : Location) (name : Text) (entries : Table Location Entry) :
    namesOf directory
        (entries.keepKeys fun found => !(directory ++ [name]).isPrefixOf found).keys =
      (namesOf directory entries.keys).filter (· ≠ name) := by
  induction entries with
  | nil => rfl
  | cons row rest ih =>
    obtain ⟨found, entry⟩ := row
    let p (found : Location) : Bool := !(directory ++ [name]).isPrefixOf found
    have hkeys : Table.keys ((found, entry) :: rest) = found :: Table.keys rest := rfl
    have hkept : Table.keys (Table.keepKeys p ((found, entry) :: rest)) =
        if (directory ++ [name]).isPrefixOf found then Table.keys (Table.keepKeys p rest)
        else found :: Table.keys (Table.keepKeys p rest) := by
      rw [Table.keepKeys, List.filter_cons]
      cases h : (directory ++ [name]).isPrefixOf found <;> simp [p, h, Table.keepKeys, Table.keys]
    rw [hkeys, hkept]
    by_cases hin : found ≠ [] ∧ found.dropLast = directory
    · obtain ⟨last, rfl⟩ : ∃ last, found = directory ++ [last] := by
        obtain ⟨hroot, rfl⟩ := hin
        exact ⟨found.getLast hroot, (List.dropLast_concat_getLast hroot).symm⟩
      rw [namesOf_cons_entry]
      by_cases hname : last = name
      · subst hname
        rw [if_pos (List.isPrefixOf_iff_prefix.mpr (List.prefix_refl _)), ih]
        simp
      · have huntouched : ¬(directory ++ [name]).isPrefixOf (directory ++ [last]) = true :=
          Bool.eq_false_iff.mp (not_touched_of_ne hname)
        rw [if_neg huntouched, namesOf_cons_entry, ih, List.filter_cons_of_pos (by simpa)]
    · rw [namesOf_cons_other _ hin, ← ih]
      split
      · rfl
      · exact namesOf_cons_other _ hin

theorem NewEntry.entries_eq (h : NewEntry fs other location) (hroot : location ≠ []) :
    other.entries.keepKeys (fun found => !location.isPrefixOf found) = fs.entries := by
  rw [h.entries, Table.keepKeys, List.filter_eq_self]
  intro row hrow
  rw [Bool.not_eq_true', Bool.eq_false_iff]
  intro htouched
  have hne : row.1 ≠ [] := by
    intro heq
    rw [heq, (reachesDown_isPrefixOf hroot).root] at htouched
    cases htouched
  have hkey : row.1 ∈ fs.entries.keys := List.mem_map_of_mem hrow
  have hnone := h.absent row.1 htouched
  rw [entryAt, if_neg hne, Table.get?_eq_none] at hnone
  exact hnone hkey

/-- The directory has its old names, and the new one. -/
theorem NewEntry.namesIn_perm (h : NewEntry fs other (directory ++ [name])) :
    ((other.namesIn directory).filter (· ≠ name)).Perm (fs.namesIn directory) := by
  rw [FileSystem.namesIn_eq, FileSystem.namesIn_eq]
  refine ((other.listed_perm _).filter _).trans ?_
  rw [← namesOf_without, h.entries_eq (by simp)]
  exact (fs.listed_perm _).symm

end NewEntries

/-- A name that is not wanted makes no difference to the wanted names that are kept, and neither do
names that are not wanted and were not kept before. -/
theorem keepNames_without {p p' : Text → Except Fault Bool} {wanted : Text → Bool} {name : Text}
    {names : List Text} (hname : wanted name = false)
    (hnew : name ∈ names → ∃ keep, p' name = .ok keep)
    (hold : ∀ n ∈ names, n ≠ name → p' n = p n ∨
      p n = .ok false ∧ ∃ keep, p' n = .ok keep ∧ (keep = true → wanted n = false)) :
    (keepNames p' names).map (List.filter wanted) =
      (keepNames p (names.filter (· ≠ name))).map (List.filter wanted) := by
  induction names with
  | nil => rfl
  | cons first rest ih =>
    obtain ⟨hfirst, hrest⟩ := List.forall_mem_cons.mp hold
    have hih := ih (fun hmem => hnew (List.mem_cons_of_mem _ hmem)) hrest
    -- A first name that is not wanted goes, whether it is kept or not.
    have hdrop {keep : Bool} (hkeep : keep = true → wanted first = false) :
        ((keepNames p' rest).map fun kept => if keep then first :: kept else kept).map
            (List.filter wanted) = (keepNames p' rest).map (List.filter wanted) := by
      cases keepNames p' rest with
      | error fault => rfl
      | ok kept => cases keep <;> simp [Except.map, hkeep]
    rw [keepNames]
    by_cases heq : first = name
    · subst heq
      obtain ⟨keep, hkeep⟩ := hnew (List.mem_cons_self ..)
      rw [hkeep, List.filter_cons_of_neg (by simp), ← hih]
      exact hdrop fun _ => hname
    · rw [List.filter_cons_of_pos (by simpa using heq), keepNames]
      rcases hfirst heq with hsame | ⟨hbefore, keep, hkeep, hunwanted⟩
      · rw [hsame]
        cases p first with
        | error fault => rfl
        | ok keep =>
          simp only
          generalize keepNames p' rest = result at hih ⊢
          generalize keepNames p (rest.filter (· ≠ name)) = result' at hih ⊢
          rcases result with fault | kept <;> rcases result' with fault' | kept'
          · cases hih
            rfl
          · cases hih
          · cases hih
          · simp only [Except.map, Except.ok.injEq] at hih ⊢
            cases keep with
            | false => exact hih
            | true => simp only [↓reduceIte, List.filter_cons, hih]
      · rw [hkeep, hbefore]
        simp only
        rw [hdrop hunwanted, hih]
        cases keepNames p (rest.filter (· ≠ name)) <;> rfl

end FileSystem

end HelpText
