import HelpText.Proofs.FileSystem.Trails

/-!
Ways to directories. Main statements: on the way to a directory, and above it, there are directories
and links only, so it is found whatever happens to files; what an entry of a directory is found as;
and a path that leads anywhere by its last name leads through the directory of that name.
-/

namespace HelpText

namespace FileSystem

/-- Every location above this one, and itself, is a directory. -/
def IsFounded (fs : FileSystem) (here : Location) : Prop :=
  ∀ above, above <+: here → ∃ mode, fs.entryAt above = some (.directory mode)

theorem isFounded_nil (fs : FileSystem) : IsFounded fs [] := by
  intro above habove
  rw [List.prefix_nil.mp habove]
  exact ⟨_, rfl⟩

section Founded

variable {fs : FileSystem} {here : Location} {piece : Text} {mode : Nat}

theorem IsFounded.dropLast (h : IsFounded fs here) : IsFounded fs here.dropLast :=
  fun above habove => h above (habove.trans (List.dropLast_prefix here))

theorem IsFounded.linkStart (h : IsFounded fs here) (target : Text) :
    IsFounded fs (linkStart here target) := by
  rw [FileSystem.linkStart]
  split
  · exact h
  · exact isFounded_nil fs

theorem IsFounded.concat (h : IsFounded fs here)
    (hentry : fs.entryAt (here ++ [piece]) = some (.directory mode)) :
    IsFounded fs (here ++ [piece]) := by
  intro above habove
  rcases List.prefix_concat_iff.mp habove with rfl | hin
  · exact ⟨mode, hentry⟩
  · exact h above hin

end Founded

section Walks

variable {fs : FileSystem} {followLast : Bool} {links : Nat} {here directory : Location}
  {pieces : List Text} {piece : Text} {seen : List Location} {result : Except Cause Place}
  {mode : Nat}

/-- Neither a file nor nothing at all. -/
def Passes (fs : FileSystem) (location : Location) : Prop :=
  ∃ entry, fs.entryAt location = some entry ∧ isFile entry = false

/-- On the way to a directory, and above it, nothing is missing and nothing is a file. -/
theorem Walk.passes (h : Walk fs followLast links here pieces seen
    (.ok (.occupied directory (.directory mode)))) (hhere : IsFounded fs here) :
    ∀ location ∈ seen, ∀ above, above <+: location → Passes fs above := by
  generalize hresult : Except.ok (Place.occupied directory (.directory mode)) = found at h
  have hdirectory : ∀ {above mode}, fs.entryAt above = some (.directory mode) → Passes fs above :=
    fun hentry => ⟨_, hentry, rfl⟩
  induction h with
  | arrived h =>
    intro location hlocation above habove
    obtain rfl := List.mem_singleton.mp hlocation
    obtain ⟨mode, hentry⟩ := hhere above habove
    exact hdirectory hentry
  | skipped _ _ ih => exact ih hhere hresult
  | up _ ih => exact ih hhere.dropLast hresult
  | @entered links here piece rest mode' seen result hpiece hentry _ ih =>
    intro location hlocation above habove
    rcases List.mem_cons.mp hlocation with rfl | hin
    · obtain ⟨mode, hentry⟩ := hhere.concat hentry above habove
      exact hdirectory hentry
    · exact ih (hhere.concat hentry) hresult location hin above habove
  | @linked links here piece target rest seen result hpiece hentry _ _ ih =>
    intro location hlocation above habove
    rcases List.mem_cons.mp hlocation with rfl | hin
    · rcases List.prefix_concat_iff.mp habove with rfl | hin
      · exact ⟨_, hentry, rfl⟩
      · obtain ⟨mode, hentry⟩ := hhere above hin
        exact hdirectory hentry
    · exact ih (hhere.linkStart target) hresult location hin above habove
  | _ => cases hresult

/-- Behind a way that does not lead to a directory, no name leads anywhere. -/
theorem Walk.stops (h : Walk fs true links here pieces seen result) (hhere : IsFounded fs here)
    (hname : Path.isName piece = true)
    (hresult : ∀ directory mode, result ≠ .ok (.occupied directory (.directory mode)))
    (followLast : Bool) :
    ∃ seen' cause, Walk fs followLast links here (pieces ++ [piece]) seen' (.error cause) := by
  have hne : piece ≠ [] := by
    rintro rfl
    cases hname
  induction h with
  | @arrived links here entry h =>
    -- Where the way starts there is a directory.
    obtain ⟨mode, hentry⟩ := hhere here (List.prefix_refl _)
    rw [hentry] at h
    cases h
    exact absurd rfl (hresult here mode)
  | lost h =>
    obtain ⟨mode, hentry⟩ := hhere _ (List.prefix_refl _)
    rw [hentry] at h
    cases h
  | skipped hskipped _ ih =>
    obtain ⟨seen', cause, hwalk⟩ := ih hhere hresult
    exact ⟨seen', cause, .skipped hskipped hwalk⟩
  | up _ ih =>
    obtain ⟨seen', cause, hwalk⟩ := ih hhere.dropLast hresult
    exact ⟨seen', cause, .up hwalk⟩
  | tooLong hpiece hup hlong => exact ⟨_, _, .tooLong hpiece hup hlong⟩
  | free hpiece hentry => exact ⟨_, _, .missing hpiece hentry (by simp [hne])⟩
  | missing hpiece hentry => exact ⟨_, _, .missing hpiece hentry (by simp [hne])⟩
  | entered hpiece hentry _ ih =>
    obtain ⟨seen', cause, hwalk⟩ := ih (hhere.concat hentry) hresult
    exact ⟨_, cause, .entered hpiece hentry hwalk⟩
  | file hpiece hentry => exact ⟨_, _, .blocked hpiece hentry (by simp)⟩
  | blocked hpiece hentry => exact ⟨_, _, .blocked hpiece hentry (by simp)⟩
  | kept _ _ hlast => cases hlast
  | exhausted hpiece hentry => exact ⟨_, _, .exhausted hpiece hentry (Or.inl (by simp))⟩
  | linked hpiece hentry _ _ ih =>
    obtain ⟨seen', cause, hwalk⟩ := ih (hhere.linkStart _) hresult
    rw [List.append_assoc] at hwalk
    exact ⟨_, cause, .linked hpiece hentry (Or.inl (by simp)) hwalk⟩

end Walks

section Paths

variable {fs : FileSystem} {path : Path} {place : Place}

theorem startOf_of_rooted (h : path.root ≠ []) : fs.startOf path = [] := if_neg h

/-- The text of a path begins with that of its parent, if it is rooted. -/
theorem parent_text_prefix (hroot : path.root ≠ []) : path.parent.text <+: path.text := by
  have hjoin (names : List Text) : Text.join ['/'] names.dropLast <+: Text.join ['/'] names := by
    induction names with
    | nil => exact List.prefix_refl _
    | cons name rest ih =>
      cases rest with
      | nil => exact List.nil_prefix
      | cons next rest =>
        cases hrest : (next :: rest).dropLast with
        | nil =>
          rw [List.dropLast_cons_of_ne_nil (List.cons_ne_nil _ _), hrest]
          rw [Text.join_cons_of_ne_nil _ _ (List.cons_ne_nil _ _), List.append_assoc]
          exact List.prefix_append _ _
        | cons other others =>
          rw [hrest] at ih
          rw [List.dropLast_cons_of_ne_nil (List.cons_ne_nil _ _), hrest,
            Text.join_cons_of_ne_nil _ _ (List.cons_ne_nil _ _),
            Text.join_cons_of_ne_nil _ _ (List.cons_ne_nil _ _)]
          exact (List.prefix_append_right_inj _).mpr ih
  have hparent : path.parent.text = path.root ++ Text.join ['/'] path.names.dropLast :=
    if_neg fun h => hroot h.1
  have hpath : path.text = path.root ++ Text.join ['/'] path.names := if_neg fun h => hroot h.1
  rw [hparent, hpath]
  exact (List.prefix_append_right_inj _).mpr (hjoin path.names)

/-- A rooted path that leads anywhere leads through the directory of its last name. -/
theorem directory_of_resolve {followLast : Bool} (hroot : path.root ≠ [])
    (hname : Path.isName path.name = true)
    (h : fs.resolve followLast path = .ok place) :
    ∃ directory mode, fs.resolve true path.parent =
      .ok (.occupied directory (.directory mode)) := by
  obtain ⟨hnull, hlong, hwalk⟩ := (resolve_eq_ok_iff_walk _ _ _ _).mp h
  obtain ⟨rest, hrest⟩ := parent_text_prefix hroot
  have hnames : path.names = path.parent.names ++ [path.name] := by
    have hne : path.names ≠ [] := by
      intro hnil
      rw [Path.name, hnil] at hname
      cases hname
    rw [Path.parent, Path.name, List.getLastD_eq_getLast?, List.getLast?_eq_some_getLast hne,
      Option.getD_some, List.dropLast_concat_getLast hne]
  -- The walk of the parent exists; if it led to no directory, the name behind it would not lead on.
  have hparent := walk_path fs true path.parent
  have hstart : fs.startOf path.parent = fs.startOf path := rfl
  have hfounded : IsFounded fs (fs.startOf path.parent) := by
    rw [hstart, startOf_of_rooted hroot]
    exact isFounded_nil fs
  by_contra hnot
  have hresult : ∀ directory mode, fs.follow true maxLinks (fs.startOf path.parent)
      path.parent.names ≠ .ok (.occupied directory (.directory mode)) := by
    intro directory mode heq
    refine hnot ⟨directory, mode, (resolve_eq_ok_iff _ _ _ _).mpr ⟨?_, ?_, heq⟩⟩
    · intro hin
      exact hnull (hrest ▸ List.mem_append_left _ hin)
    · refine Nat.le_trans ?_ hlong
      rw [← hrest, Utf8.encode, Utf8.encode, List.flatMap_append, List.length_append]
      exact Nat.le_add_right _ _
  obtain ⟨seen', cause, hstopped⟩ := hparent.stops hfounded hname hresult followLast
  rw [hnames] at hwalk
  have hboth := (hwalk.unique hstopped).2
  cases hboth

/-- A directory is still found when nothing changes but at places where a file stood or nothing, and
below such places. -/
theorem directory_stays {after : FileSystem} {directory : Path} {location : Location} {mode : Nat}
    (hroot : directory.root ≠ []) (hprocess : SameProcess fs after) (changed : List Location)
    (hchanged : ∀ place ∈ changed, ¬Passes fs place)
    (hsame : ∀ other, (∀ place ∈ changed, ¬place <+: other) →
      after.entryAt other = fs.entryAt other)
    (h : fs.resolve true directory = .ok (.occupied location (.directory mode))) :
    after.resolve true directory = .ok (.occupied location (.directory mode)) := by
  have hfounded : IsFounded fs (fs.startOf directory) := by
    rw [startOf_of_rooted hroot]
    exact isFounded_nil fs
  have hpasses := (walk_of_resolve h).passes hfounded
  rw [← h]
  refine resolve_congr hprocess fun seen hseen => hsame seen fun place hplace hprefix => ?_
  exact hchanged place hplace (hpasses seen hseen place hprefix)

end Paths

section Entries

variable {fs : FileSystem} {followLast : Bool} {directory : Path} {location : Location} {mode : Nat}
  {name : Text}

/-- The path is not too long to lead anywhere, and neither is its last name. -/
structure Fits (path : Path) : Prop where
  no_null : '\x00' ∉ path.text
  short : (Utf8.encode path.text).length ≤ maxPathLength
  name_short : (Utf8.encode path.name).length ≤ maxNameLength

theorem name_of_entry (directory : Path) (name : Text) :
    ({ directory with names := directory.names ++ [name] } : Path).name = name := by
  simp [Path.name]

/-- The way to an entry is the way to its directory and one step more. -/
theorem resolve_entry {result : Except Cause Place} {seen : List Location}
    (hdirectory : fs.resolve true directory = .ok (.occupied location (.directory mode)))
    (hfits : Fits { directory with names := directory.names ++ [name] })
    (hstep : ∀ left, Walk fs followLast left location [name] seen result) :
    fs.resolve followLast { directory with names := directory.names ++ [name] } =
      result.mapError
        (.system · (Path.text { directory with names := directory.names ++ [name] })) := by
  obtain ⟨left, hleft⟩ := (walk_of_resolve hdirectory).continues
  obtain ⟨seen', hwhole⟩ := hleft (by simp) (hstep left)
  have hnull : ({ directory with names := directory.names ++ [name] } : Path).text.contains '\x00' =
      false := by simpa using hfits.no_null
  have hfollow := hwhole.eq_follow
  rw [startOf] at hfollow
  rw [resolve, hnull, if_neg (by simp), if_neg (Nat.not_lt.mpr hfits.short), hfollow]

theorem resolve_entry_none (hname : Path.isName name = true) (hup : name ≠ ['.', '.'])
    (hdirectory : fs.resolve true directory = .ok (.occupied location (.directory mode)))
    (hfits : Fits { directory with names := directory.names ++ [name] })
    (hentry : fs.entryAt (location ++ [name]) = none) :
    fs.resolve followLast { directory with names := directory.names ++ [name] } =
      .ok (.free (location ++ [name]) false) := by
  have hshort := hfits.name_short
  rw [name_of_entry] at hshort
  exact resolve_entry hdirectory hfits fun left => .free ⟨hname, hup, hshort⟩ hentry rfl

theorem resolve_entry_file {content : List UInt8} {mode' : Nat} (hname : Path.isName name = true)
    (hup : name ≠ ['.', '.'])
    (hdirectory : fs.resolve true directory = .ok (.occupied location (.directory mode)))
    (hfits : Fits { directory with names := directory.names ++ [name] })
    (hentry : fs.entryAt (location ++ [name]) = some (.file content mode')) :
    fs.resolve followLast { directory with names := directory.names ++ [name] } =
      .ok (.occupied (location ++ [name]) (.file content mode')) := by
  have hshort := hfits.name_short
  rw [name_of_entry] at hshort
  exact resolve_entry hdirectory hfits fun left => .file ⟨hname, hup, hshort⟩ hentry

/-- Without following a link at the end, whatever stands there is found. -/
theorem resolve_entry_some {entry : Entry} (hname : Path.isName name = true)
    (hup : name ≠ ['.', '.'])
    (hdirectory : fs.resolve true directory = .ok (.occupied location (.directory mode)))
    (hfits : Fits { directory with names := directory.names ++ [name] })
    (hentry : fs.entryAt (location ++ [name]) = some entry) :
    fs.resolve false { directory with names := directory.names ++ [name] } =
      .ok (.occupied (location ++ [name]) entry) := by
  have hshort := hfits.name_short
  rw [name_of_entry] at hshort
  have hpiece : IsPlain name := ⟨hname, hup, hshort⟩
  cases entry with
  | file content mode => exact resolve_entry_file hname hup hdirectory hfits hentry
  | directory mode =>
    exact resolve_entry hdirectory hfits fun left => .entered hpiece hentry (.arrived hentry)
  | link target => exact resolve_entry hdirectory hfits fun left => .kept hpiece hentry rfl

/-- An entry with a path that leads anywhere has a path that is not too long. -/
theorem fits_of_resolve {place : Place} (hname : Path.isName name = true) (hup : name ≠ ['.', '.'])
    (hdirectory : fs.resolve true directory = .ok (.occupied location (.directory mode)))
    (h : fs.resolve followLast { directory with names := directory.names ++ [name] } = .ok place) :
    Fits { directory with names := directory.names ++ [name] } := by
  obtain ⟨hnull, hlong, hwalk⟩ := (resolve_eq_ok_iff_walk _ _ _ _).mp h
  refine ⟨hnull, hlong, ?_⟩
  rw [name_of_entry]
  by_contra hlongName
  obtain ⟨left, hleft⟩ := (walk_of_resolve hdirectory).continues
  have hlast : Walk fs followLast left location [name] [] (.error .nameTooLong) :=
    .tooLong hname hup (Nat.not_le.mp hlongName)
  obtain ⟨seen, hstopped⟩ := hleft (List.cons_ne_nil _ _) hlast
  have hboth := (hwalk.unique hstopped).2
  cases hboth

end Entries

end FileSystem

end HelpText
