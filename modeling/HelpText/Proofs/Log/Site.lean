import HelpText.Log.RotatingFile
import HelpText.Proofs.FileSystem.Moving

/-!
The site of a log file: the locations that writing to it can touch. Main statement: whatever is
written, and however often the file is rotated, everything else stays as it is.
-/

namespace HelpText

namespace Log

open FileSystem (SameOutside Clear Grows)

/-- How many backups a log file has. -/
def maxBackups : Nat := 3

/-- The path of a log file, as number 0, and those of its backups. -/
def numbered (path : Path) : Nat → Path
  | 0 => path
  | number + 1 => RotatingFile.backupPath path (number + 1)

/-- A log file: its path, the directory that the path leads into, and where the file itself stands.
Both differ where the path ends in a link. -/
structure Site where
  path : Path
  directory : Location
  file : Location
  deriving DecidableEq, Repr

namespace Site

/-- Where the entry of the log file, or of a backup, stands in the directory. -/
def place (site : Site) (number : Nat) : Location :=
  site.directory ++ [(numbered site.path number).name]

/-- What writing to the log may touch: the file, and what has the name of the log file or of one of
its backups, with all that is below. -/
def touches (site : Site) (location : Location) : Bool :=
  site.file.isPrefixOf location ||
    (List.range (maxBackups + 1)).any fun number => (site.place number).isPrefixOf location

/-- The log file can be opened at this site, and no way to it leads through itself. -/
structure Sits (site : Site) (fs : FileSystem) : Prop where
  isName : Path.isName site.path.name = true
  not_up : site.path.name ≠ ['.', '.']
  directory : ∃ mode, fs.resolve true site.path.parent =
    .ok (.occupied site.directory (.directory mode))
  file : ∃ place, fs.resolve true site.path = .ok place ∧ place.Takes site.file
  way : Clear site.touches fs site.path.parent
  self : ∀ location ∈ fs.pathTrail true site.path, ∀ number ∈ List.range (maxBackups + 1),
    (site.place number).isPrefixOf location = true → location = site.place 0
  below : ∀ location ∈ fs.pathTrail true site.path, site.file.isPrefixOf location = true →
    location = site.file

/-- The open files, as they are while the log is in use: streams belong to the site, and a link in
the place of the log file is the one that was there at first and leads to a file. -/
structure Sound (site : Site) (fs : FileSystem) (o : OpenFiles) : Prop where
  streams : ∀ location, Stream.attached location ∈ o.streams → site.touches location = true
  link : ∀ target, o.files.entryAt (site.place 0) = some (.link target) →
    fs.entryAt (site.place 0) = some (.link target) ∧
      ∃ content mode, o.files.entryAt site.file = some (.file content mode)

/-- The open files are sound, and apart from the site their files are those of `now`, which has
grown from those at first. -/
structure Keeps (site : Site) (fs now : FileSystem) (o : OpenFiles) : Prop
    extends Sound site fs o where
  grows : Grows fs now
  outside : SameOutside site.touches now o.files

section Places

variable {site : Site} {number : Nat} {location : Location}

theorem touches_iff (site : Site) (location : Location) :
    site.touches location = true ↔
      site.file <+: location ∨ ∃ number ≤ maxBackups, site.place number <+: location := by
  simp only [touches, Bool.or_eq_true, List.any_eq_true, List.mem_range,
    List.isPrefixOf_iff_prefix, Nat.lt_add_one_iff]

theorem touches_file (site : Site) : site.touches site.file = true :=
  (touches_iff site site.file).mpr (Or.inl (List.prefix_refl _))

theorem touches_below (site : Site) (location : Location)
    (h : site.touches location.dropLast = true) : site.touches location = true := by
  have habove := List.dropLast_prefix location
  rw [touches_iff] at h ⊢
  rcases h with hfile | ⟨number, hnumber, hplace⟩
  · exact Or.inl (hfile.trans habove)
  · exact Or.inr ⟨number, hnumber, hplace.trans habove⟩

theorem touches_of_prefix (hnumber : number ≤ maxBackups) (h : site.place number <+: location) :
    site.touches location = true :=
  (touches_iff site location).mpr (Or.inr ⟨number, hnumber, h⟩)

theorem touches_place (hnumber : number ≤ maxBackups) :
    site.touches (site.place number) = true :=
  touches_of_prefix hnumber (List.prefix_refl _)

/-- Nothing that is touched is an entry of a directory that is not the one of the log. -/
theorem dropLast_ne {directory : Location} (hdirectory : site.directory ≠ directory)
    (hfile : site.file.dropLast ≠ directory) (hoff : site.touches directory = false)
    (h : site.touches location = true) : location.dropLast ≠ directory := by
  rintro rfl
  rcases (touches_iff site location).mp h with ⟨below, rfl⟩ | ⟨number, hnumber, below, rfl⟩
  · rcases List.eq_nil_or_concat below with rfl | ⟨above, last, rfl⟩
    · rw [List.append_nil] at hfile
      exact hfile rfl
    · -- The directory is the log file, or below it.
      rw [List.concat_eq_append, ← List.append_assoc, List.dropLast_concat,
        (touches_iff site _).mpr (Or.inl (List.prefix_append _ _))] at hoff
      cases hoff
  · rcases List.eq_nil_or_concat below with rfl | ⟨above, last, rfl⟩
    · simp [place] at hdirectory
    · -- The directory is below the log itself.
      rw [List.concat_eq_append, ← List.append_assoc, List.dropLast_concat,
        touches_of_prefix hnumber (List.prefix_append _ _)] at hoff
      cases hoff

theorem name_numbered_succ (path : Path) (number : Nat) :
    (numbered path (number + 1)).name = path.name ++ '.' :: Text.decimal (number + 1) := by
  change (path.names.dropLast ++ [_]).getLastD [] = _
  simp

/-- Different numbers have different places, side by side. -/
theorem eq_of_place_prefix (site : Site) {number other : Nat}
    (h : site.place number <+: site.place other) : number = other := by
  have heq : site.place number = site.place other := h.eq_of_length (by simp [place])
  have hname : (numbered site.path number).name = (numbered site.path other).name := by
    simpa [place] using heq
  cases number with
  | zero =>
    cases other with
    | zero => rfl
    | succ other =>
      have hlength := congrArg List.length hname
      rw [name_numbered_succ, numbered, List.length_append, List.length_cons] at hlength
      omega
  | succ number =>
    cases other with
    | zero =>
      have hlength := congrArg List.length hname
      rw [name_numbered_succ, numbered, List.length_append, List.length_cons] at hlength
      omega
    | succ other =>
      rw [name_numbered_succ, name_numbered_succ] at hname
      have hdecimal : Text.decimal (number + 1) = Text.decimal (other + 1) := by
        simpa using hname
      have hvalue (n : Nat) : Nat.ofDigitChars 10 (Text.decimal n) 0 = n :=
        Nat.ofDigitChars_toDigits (by decide) (by decide)
      rw [← hvalue (number + 1), hdecimal, hvalue]

/-- No backup stands where the log file stands, or above it. -/
theorem not_prefix_place_zero (site : Site) (number : Nat) :
    ¬site.place (number + 1) <+: site.place 0 := by
  intro h
  have heq := site.eq_of_place_prefix h
  omega

theorem numbered_eq {path : Path} (hname : Path.isName path.name = true) (number : Nat) :
    numbered path number =
      { path.parent with names := path.parent.names ++ [(numbered path number).name] } := by
  cases number with
  | zero =>
    have hnames : path.names ≠ [] := by
      intro hnil
      rw [Path.name, hnil] at hname
      cases hname
    have hlast : path.names.getLastD [] = path.names.getLast hnames := by
      rw [List.getLastD_eq_getLast?, List.getLast?_eq_some_getLast hnames, Option.getD_some]
    simp only [numbered, Path.parent, Path.name, hlast, List.dropLast_concat_getLast hnames]
  | succ number =>
    rw [name_numbered_succ]
    rfl

/-- The name of a backup is a proper name. -/
theorem proper_numbered {path : Path} (h : Path.isName path.name = true)
    (hup : path.name ≠ ['.', '.']) (number : Nat) :
    Path.isName (numbered path number).name = true ∧ (numbered path number).name ≠ ['.', '.'] := by
  cases number with
  | zero => exact ⟨h, hup⟩
  | succ number =>
    rw [name_numbered_succ]
    -- It ends in a digit behind a dot.
    have hne : Text.decimal (number + 1) ≠ [] := Nat.toDigits_ne_nil
    obtain ⟨front, digit, hdecimal⟩ : ∃ front digit, Text.decimal (number + 1) = front ++ [digit] :=
      ⟨_, _, (List.dropLast_concat_getLast hne).symm⟩
    have hdigit : digit.isDigit = true := by
      have hin : digit ∈ Text.decimal (number + 1) := by simp [hdecimal]
      exact Nat.isDigit_of_mem_toDigits (by decide) (by decide) hin
    have hdot : digit ≠ '.' := by
      rintro rfl
      cases hdigit
    have hlast : (path.name ++ '.' :: Text.decimal (number + 1)).getLast? = some digit := by
      rw [hdecimal, ← List.cons_append, ← List.append_assoc, List.getLast?_concat]
    have hother (other : Text) (hlast' : other.getLast? ≠ some digit) :
        path.name ++ '.' :: Text.decimal (number + 1) ≠ other := by
      rintro rfl
      exact hlast' hlast
    have hempty := hother [] (by simp)
    have hsingle := hother ['.'] (by simpa using hdot.symm)
    refine ⟨by simp [Path.isName, hempty, hsingle], hother ['.', '.'] ?_⟩
    simpa using hdot.symm

end Places

section Ways

variable {site : Site} {fs now : FileSystem} {o : OpenFiles} {number : Nat}
  {place : FileSystem.Place}

/-- The directory of the log file stays where it is. -/
theorem Keeps.directory (hkeeps : site.Keeps fs now o) (hsits : site.Sits fs) :
    ∃ mode, o.files.resolve true site.path.parent =
      .ok (.occupied site.directory (.directory mode)) := by
  obtain ⟨mode, hdirectory⟩ := hsits.directory
  obtain ⟨other, halike, hnow⟩ := hkeeps.grows.resolve_occupied hdirectory
  rw [halike.of_directory] at hnow
  have hclear : Clear site.touches now site.path.parent := by
    rw [Clear, hkeeps.grows.pathTrail_eq hdirectory]
    exact hsits.way
  exact ⟨mode, by rw [hkeeps.outside.resolve_eq hclear, hnow]⟩

/-- The log file and its backups are found by name. -/
theorem Keeps.location_numbered (hkeeps : site.Keeps fs now o) (hsits : site.Sits fs)
    (hresolve : o.files.resolve false (numbered site.path number) = .ok place) :
    place.location = site.place number := by
  obtain ⟨mode, hdirectory⟩ := hkeeps.directory hsits
  obtain ⟨hname, hup⟩ := proper_numbered hsits.isName hsits.not_up number
  rw [numbered_eq hsits.isName] at hresolve
  exact FileSystem.location_of_entry hdirectory hname hup (Or.inl rfl) hresolve

/-- As long as a link stands in the place of the log file, it leads to the file at first. -/
theorem Keeps.resolve_link (hkeeps : site.Keeps fs now o) (hsits : site.Sits fs) {target : Text}
    (hlink : o.files.entryAt (site.place 0) = some (.link target)) :
    ∃ entry, o.files.resolve true site.path = .ok (.occupied site.file entry) := by
  obtain ⟨hfirst, content, mode, hfile⟩ := hkeeps.link target hlink
  obtain ⟨place, hplace, htakes⟩ := hsits.file
  obtain ⟨hnull, hlong, hway⟩ := (FileSystem.resolve_eq_ok_iff_walk _ _ _ _).mp hplace
  obtain ⟨hroot, -⟩ := htakes.stands (FileSystem.isIn_of_follow hway.eq_follow)
  -- With the file that stands there now, the way is the same as at first.
  have hwritten := hway.put htakes content mode
  have hstands := hwritten.stands (by simp) (by simp)
  have halike : FileSystem.AlikeAt (fs.put site.file (.file content mode)) o.files
      (fs.pathTrail true site.path) := by
    constructor
    · intro location hlocation hnone
      obtain ⟨entry, hentry⟩ := hstands location hlocation
      rw [hnone] at hentry
      cases hentry
    · intro location hlocation entry hentry
      by_cases heq : location = site.file
      · subst heq
        rw [FileSystem.entryAt_put_self hroot] at hentry
        exact ⟨_, hfile, by rw [Option.some.inj hentry]; exact .refl entry⟩
      · have hold : fs.entryAt location = some entry := by
          rwa [FileSystem.entryAt_put_of_ne heq] at hentry
        cases htouched : site.touches location with
        | false =>
          obtain ⟨other, hother, hlike⟩ := hkeeps.grows.stays location entry hold
          exact ⟨other, by rw [hkeeps.outside.entryAt_eq htouched, hother], hlike⟩
        | true =>
          obtain ⟨number, hnumber, hprefix⟩ :=
            ((touches_iff site location).mp htouched).resolve_left fun hprefix =>
              heq (hsits.below location hlocation (List.isPrefixOf_iff_prefix.mpr hprefix))
          rw [hsits.self location hlocation number (List.mem_range.mpr (by omega))
            (List.isPrefixOf_iff_prefix.mpr hprefix)] at hold ⊢
          rw [hfirst] at hold
          cases hold
          exact ⟨_, hlink, .refl _⟩
  have hnow := hwritten.alike halike
  have hstart : o.files.startOf site.path = fs.startOf site.path := by
    rw [FileSystem.startOf_eq hkeeps.outside.toSameProcess,
      FileSystem.startOf_eq hkeeps.grows.toSameProcess]
  rw [← hstart] at hnow
  exact ⟨_, (FileSystem.resolve_eq_ok_iff _ _ _ _).mpr ⟨hnull, hlong, hnow.eq_follow⟩⟩

/-- Wherever the path of the log file leads in the end, that belongs to the site. -/
theorem Keeps.touches_opened (hkeeps : site.Keeps fs now o) (hsits : site.Sits fs)
    (hresolve : o.files.resolve true site.path = .ok place) :
    site.touches place.location = true := by
  by_cases hlink : ∃ target, o.files.entryAt (site.place 0) = some (.link target)
  · obtain ⟨target, htarget⟩ := hlink
    obtain ⟨entry, hfile⟩ := hkeeps.resolve_link hsits htarget
    rw [hfile] at hresolve
    cases hresolve
    exact site.touches_file
  · obtain ⟨mode, hdirectory⟩ := hkeeps.directory hsits
    have hpath := numbered_eq hsits.isName 0
    rw [numbered] at hpath
    rw [hpath] at hresolve
    have hlocation := FileSystem.location_of_entry hdirectory hsits.isName hsits.not_up
      (Or.inr fun target htarget => hlink ⟨target, htarget⟩) hresolve
    rw [hlocation]
    exact touches_place (Nat.zero_le maxBackups)

end Ways

end Site

/-- The log file `run.log` in the working directory, which is the root. -/
def logPath : Path := { names := [.of "run.log"] }

def logSite : Site where
  path := { root := ['/'], names := [.of "run.log"] }
  directory := []
  file := [.of "run.log"]

/-- Where nothing has the name `run.log`, the log file can be opened. -/
theorem sits_logSite {fs : FileSystem} (hnone : fs.entryAt [.of "run.log"] = none) :
    logSite.Sits fs := by
  have habove : fs.resolve true logSite.path.parent =
      .ok (.occupied [] (.directory Entry.newDirectoryMode)) := rfl
  have hfree : fs.resolve true logSite.path = .ok (.free [.of "run.log"] false) := by
    rw [FileSystem.resolve, if_neg (by decide), if_neg (by decide)]
    change Except.mapError _ (fs.followPieces true _ [] [.of "run.log"]) = _
    rw [FileSystem.followPieces, if_neg (by decide), if_neg (by decide), if_neg (by decide)]
    simp only [List.nil_append, hnone]
    rfl
  -- The root alone is looked up for the directory, and behind that only the name itself.
  have hway : fs.pathTrail true logSite.path.parent = [[]] := rfl
  have hlooked : fs.pathTrail true logSite.path = [[.of "run.log"]] := by
    change fs.trailPieces true _ [] [.of "run.log"] = _
    rw [FileSystem.trailPieces, if_neg (by decide), if_neg (by decide), if_neg (by decide)]
    simp only [List.nil_append, hnone]
  refine ⟨by decide, by decide, ⟨_, habove⟩, ⟨_, hfree, Or.inl rfl⟩, ?_, ?_, ?_⟩
  · rw [Clear, hway]
    decide
  · rw [hlooked]
    decide
  · rw [hlooked]
    decide

end Log

end HelpText
