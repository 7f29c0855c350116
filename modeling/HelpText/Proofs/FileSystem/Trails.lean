import HelpText.Proofs.FileSystem.Growth

/-!
The trail of a path: the locations that are looked up on its way. Main statements: what a path leads
to depends on what stands on its trail alone; a trail only gets longer in a file system that grows;
and the way to an entry of a directory is the way to the directory, one name further.
-/

namespace HelpText

namespace FileSystem

/-- Where a place is, whatever stands there. -/
def Place.location : Place → Location
  | .occupied location _ => location
  | .free location _ => location

theorem Place.Takes.location_eq {place : Place} {location : Location}
    (htakes : place.Takes location) : place.location = location := by
  rcases htakes with rfl | ⟨old, mode, rfl⟩ <;> rfl

section Walks

variable {fs after : FileSystem} {followLast : Bool} {links : Nat} {here : Location}
  {pieces : List Text} {seen : List Location} {result : Except Cause Place}

theorem Walk.location_mem {place : Place}
    (h : Walk fs followLast links here pieces seen (.ok place)) :
    place.location ∈ seen := by
  generalize hresult : Except.ok place = result at h
  induction h with
  | skipped _ _ ih => exact ih hresult
  | up _ ih => exact ih hresult
  | entered _ _ _ ih => exact List.mem_cons_of_mem _ (ih hresult)
  | linked _ _ _ _ ih => exact List.mem_cons_of_mem _ (ih hresult)
  | arrived => cases hresult; exact List.mem_singleton_self _
  | free => cases hresult; exact List.mem_singleton_self _
  | file => cases hresult; exact List.mem_singleton_self _
  | kept => cases hresult; exact List.mem_singleton_self _
  | _ => cases hresult

/-- A walk meets what stands on its way and nothing else. -/
theorem Walk.congr (h : Walk fs followLast links here pieces seen result)
    (hseen : ∀ location ∈ seen, after.entryAt location = fs.entryAt location) :
    Walk after followLast links here pieces seen result := by
  induction h with
  | arrived h => exact .arrived (by rw [hseen _ (List.mem_singleton_self _), h])
  | lost h => exact .lost (by rw [hseen _ (List.mem_singleton_self _), h])
  | skipped hname _ ih => exact .skipped hname (ih hseen)
  | up _ ih => exact .up (ih hseen)
  | tooLong hname hup hlong => exact .tooLong hname hup hlong
  | free hpiece hentry hrest =>
    exact .free hpiece (by rw [hseen _ (List.mem_singleton_self _), hentry]) hrest
  | missing hpiece hentry hrest =>
    exact .missing hpiece (by rw [hseen _ (List.mem_singleton_self _), hentry]) hrest
  | entered hpiece hentry _ ih =>
    obtain ⟨hhead, htail⟩ := List.forall_mem_cons.mp hseen
    exact .entered hpiece (hhead.trans hentry) (ih htail)
  | file hpiece hentry => exact .file hpiece (by rw [hseen _ (List.mem_singleton_self _), hentry])
  | blocked hpiece hentry hrest =>
    exact .blocked hpiece (by rw [hseen _ (List.mem_singleton_self _), hentry]) hrest
  | kept hpiece hentry hlast =>
    exact .kept hpiece (by rw [hseen _ (List.mem_singleton_self _), hentry]) hlast
  | exhausted hpiece hentry hfollow =>
    exact .exhausted hpiece (by rw [hseen _ (List.mem_singleton_self _), hentry]) hfollow
  | linked hpiece hentry hfollow _ ih =>
    obtain ⟨hhead, htail⟩ := List.forall_mem_cons.mp hseen
    exact .linked hpiece (hhead.trans hentry) hfollow (ih htail)

/-- Whatever stands there, a name is looked up first. -/
theorem Walk.exists_head (fs : FileSystem) (followLast : Bool) (links : Nat) (here : Location)
    {piece : Text} (hpiece : IsPlain piece) (rest : List Text) :
    ∃ seen result,
      Walk fs followLast links here (piece :: rest) ((here ++ [piece]) :: seen) result := by
  cases hentry : fs.entryAt (here ++ [piece]) with
  | none =>
    cases hrest : rest.all List.isEmpty with
    | true => exact ⟨_, _, .free hpiece hentry hrest⟩
    | false => exact ⟨_, _, .missing hpiece hentry hrest⟩
  | some entry =>
    cases entry with
    | directory mode => exact ⟨_, _, .entered hpiece hentry (walk_follow _ _ _ _ _)⟩
    | file content mode =>
      by_cases hrest : rest = []
      · subst hrest
        exact ⟨_, _, .file hpiece hentry⟩
      · exact ⟨_, _, .blocked hpiece hentry hrest⟩
    | link target =>
      by_cases hfollow : rest ≠ [] ∨ followLast = true
      · cases links with
        | zero => exact ⟨_, _, .exhausted hpiece hentry hfollow⟩
        | succ links => exact ⟨_, _, .linked hpiece hentry hfollow (walk_follow _ _ _ _ _)⟩
      · obtain ⟨rfl, rfl⟩ : rest = [] ∧ followLast = false := by simpa using hfollow
        exact ⟨_, _, .kept hpiece hentry rfl⟩

/-- Where more stands, a walk goes at least as far. -/
theorem Walk.grows (h : Walk fs followLast links here pieces seen result)
    (hgrows : Grows fs after) :
    ∃ seen' result', Walk after followLast links here pieces seen' result' ∧ seen ⊆ seen' := by
  induction h with
  | @arrived links here entry h =>
    obtain ⟨other, hother, -⟩ := hgrows.stays _ _ h
    exact ⟨_, _, .arrived hother, List.Subset.refl _⟩
  | @lost links here h =>
    cases hafter : after.entryAt here with
    | none => exact ⟨_, _, .lost hafter, List.Subset.refl _⟩
    | some entry => exact ⟨_, _, .arrived hafter, List.Subset.refl _⟩
  | skipped hname _ ih =>
    obtain ⟨seen', result', hwalk, hsub⟩ := ih
    exact ⟨seen', result', .skipped hname hwalk, hsub⟩
  | up _ ih =>
    obtain ⟨seen', result', hwalk, hsub⟩ := ih
    exact ⟨seen', result', .up hwalk, hsub⟩
  | tooLong hname hup hlong => exact ⟨_, _, .tooLong hname hup hlong, List.Subset.refl _⟩
  | entered hpiece hentry _ ih =>
    obtain ⟨seen', result', hwalk, hsub⟩ := ih
    obtain ⟨other, hother, halike⟩ := hgrows.stays _ _ hentry
    obtain rfl := halike.of_directory
    exact ⟨_, result', .entered hpiece hother hwalk, List.cons_subset_cons _ hsub⟩
  | linked hpiece hentry hfollow _ ih =>
    obtain ⟨seen', result', hwalk, hsub⟩ := ih
    obtain ⟨other, hother, halike⟩ := hgrows.stays _ _ hentry
    obtain rfl := halike.of_link
    exact ⟨_, result', .linked hpiece hother hfollow hwalk, List.cons_subset_cons _ hsub⟩
  | _ hpiece =>
    -- The walk ended here, and goes on from here if it can.
    obtain ⟨seen', result', hwalk⟩ := Walk.exists_head after _ _ _ hpiece _
    exact ⟨_, result', hwalk, List.cons_subset_cons _ (List.nil_subset _)⟩

/-- Without following a link at the end, a walk looks up no more, and finds something where it found
something before. -/
theorem Walk.unfollowed (h : Walk fs true links here pieces seen result) :
    ∃ seen' result', Walk fs false links here pieces seen' result' ∧ seen' ⊆ seen ∧
      ∀ location entry, result = .ok (.occupied location entry) →
        ∃ location' entry', result' = .ok (.occupied location' entry') := by
  have hsame {links : Nat} {here : Location} {pieces : List Text} {seen : List Location}
      {result : Except Cause Place} (hwalk : Walk fs false links here pieces seen result) :
      ∃ seen' result', Walk fs false links here pieces seen' result' ∧ seen' ⊆ seen ∧
        ∀ location entry, result = .ok (.occupied location entry) →
          ∃ location' entry', result' = .ok (.occupied location' entry') :=
    ⟨seen, result, hwalk, List.Subset.refl _, fun location entry heq => ⟨location, entry, heq⟩⟩
  induction h with
  | arrived h => exact hsame (.arrived h)
  | lost h => exact hsame (.lost h)
  | skipped hname _ ih =>
    obtain ⟨seen', result', hwalk, hsub, hfound⟩ := ih
    exact ⟨seen', result', .skipped hname hwalk, hsub, hfound⟩
  | up _ ih =>
    obtain ⟨seen', result', hwalk, hsub, hfound⟩ := ih
    exact ⟨seen', result', .up hwalk, hsub, hfound⟩
  | tooLong hname hup hlong => exact hsame (.tooLong hname hup hlong)
  | free hpiece hentry hrest => exact hsame (.free hpiece hentry hrest)
  | missing hpiece hentry hrest => exact hsame (.missing hpiece hentry hrest)
  | file hpiece hentry => exact hsame (.file hpiece hentry)
  | blocked hpiece hentry hrest => exact hsame (.blocked hpiece hentry hrest)
  | kept _ _ hlast => cases hlast
  | entered hpiece hentry _ ih =>
    obtain ⟨seen', result', hwalk, hsub, hfound⟩ := ih
    exact ⟨_, result', .entered hpiece hentry hwalk, List.cons_subset_cons _ hsub, hfound⟩
  | @exhausted here piece target rest hpiece hentry _ =>
    by_cases hrest : rest = []
    · subst hrest
      refine ⟨_, _, .kept hpiece hentry rfl, List.Subset.refl _, fun _ _ heq => ?_⟩
      cases heq
    · exact hsame (.exhausted hpiece hentry (Or.inl hrest))
  | @linked links here piece target rest seen result hpiece hentry _ _ ih =>
    by_cases hrest : rest = []
    · subst hrest
      exact ⟨_, _, .kept hpiece hentry rfl, List.cons_subset_cons _ (List.nil_subset _),
        fun _ _ _ => ⟨_, _, rfl⟩⟩
    · obtain ⟨seen', result', hwalk, hsub, hfound⟩ := ih
      exact ⟨_, result', .linked hpiece hentry (Or.inl hrest) hwalk,
        List.cons_subset_cons _ hsub, hfound⟩

/-- Behind the way to a directory the way goes on from there, with the links that are left. -/
theorem Walk.continues {directory : Location} {mode : Nat}
    (h : Walk fs true links here pieces seen (.ok (.occupied directory (.directory mode)))) :
    ∃ left, ∀ {followLast : Bool} {rest : List Text} {seen' : List Location}
      {result : Except Cause Place}, rest ≠ [] →
      Walk fs followLast left directory rest seen' result →
        ∃ seen'', Walk fs followLast links here (pieces ++ rest) seen'' result := by
  generalize hresult : Except.ok (Place.occupied directory (.directory mode)) = found at h
  induction h with
  | @arrived links here entry h =>
    cases hresult
    exact ⟨links, fun _ hwalk => ⟨_, hwalk⟩⟩
  | skipped hname _ ih =>
    obtain ⟨left, hleft⟩ := ih hresult
    refine ⟨left, fun hrest hwalk => ?_⟩
    obtain ⟨seen'', hwhole⟩ := hleft hrest hwalk
    exact ⟨seen'', .skipped hname hwhole⟩
  | up _ ih =>
    obtain ⟨left, hleft⟩ := ih hresult
    refine ⟨left, fun hrest hwalk => ?_⟩
    obtain ⟨seen'', hwhole⟩ := hleft hrest hwalk
    exact ⟨seen'', .up hwhole⟩
  | entered hpiece hentry _ ih =>
    obtain ⟨left, hleft⟩ := ih hresult
    refine ⟨left, fun hrest hwalk => ?_⟩
    obtain ⟨seen'', hwhole⟩ := hleft hrest hwalk
    exact ⟨_, .entered hpiece hentry hwhole⟩
  | linked hpiece hentry _ _ ih =>
    obtain ⟨left, hleft⟩ := ih hresult
    refine ⟨left, fun hrest hwalk => ?_⟩
    obtain ⟨seen'', hwhole⟩ := hleft hrest hwalk
    rw [List.append_assoc] at hwhole
    exact ⟨_, .linked hpiece hentry (Or.inl (List.append_ne_nil_of_right_ne_nil _ hrest)) hwhole⟩
  | _ => cases hresult

/-- A way of one name leads to the entry with this name, unless it is a link that is followed. -/
theorem Walk.location_of_name {piece : Text} {place : Place}
    (h : Walk fs followLast links here [piece] seen (.ok place)) (hname : Path.isName piece = true)
    (hup : piece ≠ ['.', '.'])
    (hlink : followLast = false ∨ ∀ target, fs.entryAt (here ++ [piece]) ≠ some (.link target)) :
    place.location = here ++ [piece] := by
  cases h with
  | skipped hnot => rw [hname] at hnot; cases hnot
  | up => exact absurd rfl hup
  | free => rfl
  | file => rfl
  | kept => rfl
  | entered _ _ h =>
    cases h
    rfl
  | linked _ hentry hfollow =>
    rcases hlink with rfl | hnone
    · simp at hfollow
    · exact absurd hentry (hnone _)

/-- Once the file is written, the same way leads to it. -/
theorem Walk.put {place : Place} {location : Location}
    (h : Walk fs true links here pieces seen (.ok place)) (htakes : place.Takes location)
    (content : List UInt8) (mode : Nat) :
    Walk (fs.put location (.file content mode)) true links here pieces seen
      (.ok (.occupied location (.file content mode))) := by
  obtain ⟨hroot, hstands⟩ := htakes.stands (isIn_of_follow h.eq_follow)
  have hnew : (fs.put location (.file content mode)).entryAt location =
      some (.file content mode) := entryAt_put_self hroot
  generalize hresult : Except.ok place = result at h
  induction h with
  | @arrived links here entry h =>
    cases hresult
    rcases htakes with hfree | ⟨old, oldMode, heq⟩
    · cases hfree
    · cases heq
      exact .arrived hnew
  | skipped hname _ ih => exact .skipped hname (ih hresult)
  | up _ ih => exact .up (ih hresult)
  | @free links here piece rest hpiece hentry hrest =>
    cases hresult
    rcases htakes with hfree | ⟨old, oldMode, heq⟩
    · simp only [Place.free.injEq, bne_eq_false_iff_eq] at hfree
      obtain ⟨rfl, rfl⟩ := hfree
      exact .file hpiece hnew
    · cases heq
  | entered hpiece hentry _ ih =>
    exact .entered hpiece (entryAt_put_of_not_file hstands hentry (by simp)) (ih hresult)
  | file hpiece hentry =>
    cases hresult
    rcases htakes with hfree | ⟨old, oldMode, heq⟩
    · cases hfree
    · cases heq
      exact .file hpiece hnew
  | kept _ _ hlast => cases hlast
  | linked hpiece hentry hfollow _ ih =>
    exact .linked hpiece (entryAt_put_of_not_file hstands hentry (by simp)) hfollow (ih hresult)
  | _ => cases hresult

end Walks

section Paths

variable {fs after : FileSystem} {followLast : Bool} {path : Path}

theorem walk_path (fs : FileSystem) (followLast : Bool) (path : Path) :
    Walk fs followLast maxLinks (fs.startOf path) path.names (fs.pathTrail followLast path)
      (fs.follow followLast maxLinks (fs.startOf path) path.names) :=
  walk_follow _ _ _ _ _

theorem walk_of_resolve {place : Place} (h : fs.resolve followLast path = .ok place) :
    Walk fs followLast maxLinks (fs.startOf path) path.names (fs.pathTrail followLast path)
      (.ok place) :=
  ((resolve_eq_ok_iff_walk _ _ _ _).mp h).2.2

theorem location_mem_pathTrail {place : Place} (h : fs.resolve followLast path = .ok place) :
    place.location ∈ fs.pathTrail followLast path :=
  (walk_of_resolve h).location_mem

theorem resolve_congr (hprocess : SameProcess fs after)
    (hseen : ∀ location ∈ fs.pathTrail followLast path,
      after.entryAt location = fs.entryAt location) :
    after.resolve followLast path = fs.resolve followLast path := by
  have hwalk := (walk_path fs followLast path).congr hseen
  have hfollow := hwalk.eq_follow
  rw [startOf] at hfollow
  simp only [resolve, hprocess.working, hfollow]

theorem pathTrail_grows (h : Grows fs after) :
    fs.pathTrail followLast path ⊆ after.pathTrail followLast path := by
  obtain ⟨seen', result', hwalk, hsub⟩ := (walk_path fs followLast path).grows h
  rw [← startOf_eq h.toSameProcess] at hwalk
  rwa [← hwalk.eq_trail] at hsub

theorem pathTrail_unfollowed (fs : FileSystem) (path : Path) :
    fs.pathTrail false path ⊆ fs.pathTrail true path := by
  obtain ⟨seen', result', hwalk, hsub, -⟩ := (walk_path fs true path).unfollowed
  rwa [← hwalk.eq_trail] at hsub

theorem resolve_unfollowed {location : Location} {entry : Entry}
    (h : fs.resolve true path = .ok (.occupied location entry)) :
    ∃ location' entry', fs.resolve false path = .ok (.occupied location' entry') := by
  obtain ⟨hnull, hlong, hwalk⟩ := (resolve_eq_ok_iff_walk _ _ _ _).mp h
  obtain ⟨seen', result', hwalk', -, hfound⟩ := hwalk.unfollowed
  obtain ⟨location', entry', rfl⟩ := hfound _ _ rfl
  exact ⟨location', entry', (resolve_eq_ok_iff _ _ _ _).mpr ⟨hnull, hlong, hwalk'.eq_follow⟩⟩

/-- The path of an entry leads into its directory, to the name of the entry. -/
theorem location_of_entry {directory : Path} {location : Location} {mode : Nat} {name : Text}
    {place : Place}
    (hdirectory : fs.resolve true directory = .ok (.occupied location (.directory mode)))
    (hname : Path.isName name = true) (hup : name ≠ ['.', '.'])
    (hlink : followLast = false ∨ ∀ target, fs.entryAt (location ++ [name]) ≠ some (.link target))
    (h : fs.resolve followLast { directory with names := directory.names ++ [name] } = .ok place) :
    place.location = location ++ [name] := by
  obtain ⟨left, hleft⟩ := (walk_of_resolve hdirectory).continues
  obtain ⟨seen, hwhole⟩ := hleft (by simp) (walk_follow fs followLast left location [name])
  obtain ⟨-, hresult⟩ := hwhole.unique (walk_of_resolve h)
  have hlast := walk_follow fs followLast left location [name]
  rw [hresult] at hlast
  exact hlast.location_of_name hname hup hlink

end Paths

/-- Where a path leads, if it leads to an entry. -/
def placesOf (fs : FileSystem) (path : Path) : List Location :=
  match fs.resolve true path with
  | .ok (.occupied location _) => [location]
  | _ => []

theorem mem_placesOf_iff (fs : FileSystem) (path : Path) (location : Location) :
    location ∈ placesOf fs path ↔
      ∃ entry, fs.resolve true path = .ok (.occupied location entry) := by
  rw [placesOf]
  split
  · next found entry hresolve => simp [hresolve, eq_comm]
  · next hother =>
    simp only [List.not_mem_nil, false_iff]
    rintro ⟨entry, hresolve⟩
    exact hother location entry hresolve

end FileSystem

end HelpText
