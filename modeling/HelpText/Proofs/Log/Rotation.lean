import HelpText.Proofs.Log.Site

/-!
Writing to a log file. Main statement: a line that is written to the log, with the rotation that it
may need, stays within the site of the log.
-/

namespace HelpText

open FileSystem (Grows)

theorem Stream.eq_of_afterErase {lost : List Location} {first : Nat} {stream : Stream}
    {location : Location} (h : stream.afterErase lost first = .attached location) :
    stream = .attached location := by
  cases stream with
  | attached here =>
    rw [afterErase] at h
    split at h
    · cases h
    · exact h
  | detached orphan => cases h
  | closed => cases h

theorem Stream.eq_of_afterMove {source target location : Location} {stream : Stream}
    (h : stream.afterMove source target = .attached location) :
    stream = .attached location ∨ target <+: location := by
  cases stream with
  | attached here =>
    rw [afterMove, Stream.attached.injEq] at h
    subst h
    split
    · exact Or.inr (List.prefix_append _ _)
    · exact Or.inl rfl
  | detached orphan => cases h
  | closed => cases h

namespace Log

namespace Site

section Steps

variable {site : Site} {fs now : FileSystem} {o changed : OpenFiles} {number : Nat}
  {location : Location}

/-- The file is no backup, nor does it stand below one. -/
theorem Sits.not_prefix_file (hsits : site.Sits fs) (hnumber : number + 1 ≤ maxBackups) :
    ¬site.place (number + 1) <+: site.file := by
  intro hprefix
  obtain ⟨place, hplace, htakes⟩ := hsits.file
  have hlocation : place.location = site.file := by
    rcases htakes with rfl | ⟨old, mode, rfl⟩ <;> rfl
  have htrail := FileSystem.location_mem_pathTrail hplace
  rw [hlocation] at htrail
  have hzero := hsits.self site.file htrail (number + 1) (List.mem_range.mpr (by omega))
    (List.isPrefixOf_iff_prefix.mpr hprefix)
  rw [hzero] at hprefix
  exact not_prefix_place_zero site number hprefix

theorem Keeps.put_file (hkeeps : site.Keeps fs now o) (htouched : site.touches location = true)
    (content : List UInt8) (mode : Nat) :
    site.Keeps fs now { o with files := o.files.put location (.file content mode) } := by
  refine ⟨⟨hkeeps.streams, fun target htarget => ?_⟩, hkeeps.grows, hkeeps.outside.put htouched _⟩
  rw [FileSystem.entryAt_put] at htarget
  split at htarget
  · cases htarget
  · split at htarget
    · cases htarget
    · obtain ⟨hfirst, old, oldMode, hfile⟩ := hkeeps.link target htarget
      refine ⟨hfirst, ?_⟩
      rw [FileSystem.entryAt_put]
      split
      · next hroot =>
        rw [hroot] at hfile
        cases hfile
      · split
        · exact ⟨content, mode, rfl⟩
        · exact ⟨old, oldMode, hfile⟩

theorem Keeps.attach (hkeeps : site.Keeps fs now o) (htouched : site.touches location = true) :
    site.Keeps fs now { o with streams := o.streams ++ [.attached location] } := by
  refine ⟨⟨fun other hother => ?_, hkeeps.link⟩, hkeeps.grows, hkeeps.outside⟩
  rcases List.mem_append.mp hother with hold | hnew
  · exact hkeeps.streams other hold
  · cases List.mem_singleton.mp hnew
    exact htouched

theorem Keeps.openAppend (hkeeps : site.Keeps fs now o) (hsits : site.Sits fs)
    (h : o.openAppend site.path = .ok (number, changed)) : site.Keeps fs now changed := by
  rw [OpenFiles.openAppend] at h
  split at h
  · next location content mode hresolve =>
    cases h
    exact hkeeps.attach (hkeeps.touches_opened hsits hresolve)
  · cases h
  · cases h
  · next location hresolve =>
    cases h
    -- A new file is put there before it is attached.
    have htouched := hkeeps.touches_opened hsits hresolve
    exact (hkeeps.put_file htouched [] Entry.newFileMode).attach htouched
  · cases h

theorem Keeps.close (hkeeps : site.Keeps fs now o) (number : Nat) :
    site.Keeps fs now (o.close number) := by
  refine ⟨⟨fun location hlocation => ?_, hkeeps.link⟩, hkeeps.grows, hkeeps.outside⟩
  rcases List.mem_or_eq_of_mem_set hlocation with hold | hclosed
  · exact hkeeps.streams location hold
  · cases hclosed

theorem Keeps.append (hkeeps : site.Keeps fs now o) (number : Nat) (content : List UInt8) :
    site.Keeps fs now (o.append number content) := by
  rw [OpenFiles.append]
  cases hstream : o.stream number with
  | closed => exact hkeeps
  | detached orphan => exact ⟨⟨hkeeps.streams, hkeeps.link⟩, hkeeps.grows, hkeeps.outside⟩
  | attached location =>
    -- The stream is one of those that are open, and these belong to the site.
    have hmem : Stream.attached location ∈ o.streams := by
      rw [OpenFiles.stream, List.getD_eq_getElem?_getD] at hstream
      cases hget : o.streams[number]? with
      | none =>
        rw [hget] at hstream
        cases hstream
      | some stream =>
        rw [hget, Option.getD_some] at hstream
        rw [← hstream]
        exact List.mem_of_getElem? hget
    simp only [FileSystem.appendAt]
    split
    · exact hkeeps.put_file (hkeeps.streams location hmem) _ _
    · exact hkeeps

/-- What stands at the place of a backup can go, with all that is below. -/
theorem Keeps.erase (hkeeps : site.Keeps fs now o) (hsits : site.Sits fs)
    (hnumber : number + 1 ≤ maxBackups) :
    site.Keeps fs now (o.erase (site.place (number + 1))) := by
  -- Neither the place of the log file nor the file itself is below a backup, so both are left.
  have hstays {location : Location} (hnot : ¬site.place (number + 1) <+: location) :
      (o.files.erase (site.place (number + 1))).entryAt location = o.files.entryAt location := by
    rw [FileSystem.entryAt_erase]
    split
    · next hroot => rw [hroot]; rfl
    · split
      · next hprefix => exact absurd (List.isPrefixOf_iff_prefix.mp hprefix) hnot
      · rfl
  refine ⟨⟨fun location hlocation => ?_, fun target htarget => ?_⟩, hkeeps.grows,
    hkeeps.outside.erase fun below => touches_of_prefix hnumber⟩
  · obtain ⟨stream, hstream, heq⟩ := List.mem_map.mp hlocation
    rw [Stream.eq_of_afterErase heq] at hstream
    exact hkeeps.streams location hstream
  · change (o.files.erase (site.place (number + 1))).entryAt (site.place 0) = _ at htarget
    rw [hstays (not_prefix_place_zero site number)] at htarget
    obtain ⟨hfirst, content, mode, hfile⟩ := hkeeps.link target htarget
    exact ⟨hfirst, content, mode, (hstays (hsits.not_prefix_file hnumber)).trans hfile⟩

/-- The log file, or a backup of it, can become the next backup. -/
theorem Keeps.move (hkeeps : site.Keeps fs now o) (hsits : site.Sits fs)
    (hnumber : number + 1 ≤ maxBackups) :
    site.Keeps fs now (o.move (site.place number) (site.place (number + 1))) := by
  have herased := hkeeps.erase hsits hnumber
  have hplace : site.place 0 ≠ [] := by simp [place]
  refine ⟨⟨fun location hlocation => ?_, fun target htarget => ?_⟩, hkeeps.grows,
    hkeeps.outside.move (fun below => touches_of_prefix (by omega))
      (fun below => touches_of_prefix hnumber)⟩
  · -- A stream stays attached where it was, or comes below the next backup.
    obtain ⟨stream, hstream, heq⟩ := List.mem_map.mp hlocation
    rcases Stream.eq_of_afterMove heq with rfl | hprefix
    · exact herased.streams location hstream
    · exact touches_of_prefix hnumber hprefix
  · change (o.files.move (site.place number) (site.place (number + 1))).entryAt (site.place 0) = _
      at htarget
    rw [FileSystem.entryAt_move _ (not_prefix_place_zero site number), if_neg hplace] at htarget
    cases number with
    | zero =>
      -- Nothing is left where the log file was.
      rw [if_pos (List.prefix_refl _)] at htarget
      cases htarget
    | succ number =>
      -- A backup is moved over another one; the log file and its link are not touched.
      rw [if_neg (not_prefix_place_zero site number)] at htarget
      obtain ⟨hfirst, content, mode, hfile⟩ := hkeeps.link target htarget
      refine ⟨hfirst, content, mode, ?_⟩
      change (o.files.move (site.place (number + 1)) (site.place (number + 2))).entryAt
        site.file = _
      rw [FileSystem.entryAt_move _ (hsits.not_prefix_file hnumber),
        if_neg (hsits.not_prefix_file (by omega))]
      split
      · next hroot =>
        rw [hroot] at hfile
        cases hfile
      · exact hfile

theorem Keeps.remove (hkeeps : site.Keeps fs now o) (hsits : site.Sits fs)
    (hnumber : number + 1 ≤ maxBackups)
    (h : o.remove (numbered site.path (number + 1)) = .ok changed) : site.Keeps fs now changed := by
  rw [OpenFiles.remove] at h
  split at h
  · cases h
  · next location entry _ hresolve =>
    cases h
    obtain rfl : location = site.place (number + 1) :=
      hkeeps.location_numbered hsits hresolve
    exact hkeeps.erase hsits hnumber
  · cases h
  · cases h

theorem Keeps.rename (hkeeps : site.Keeps fs now o) (hsits : site.Sits fs)
    (hnumber : number + 1 ≤ maxBackups)
    (h : o.rename (numbered site.path number) (numbered site.path (number + 1)) = .ok changed) :
    site.Keeps fs now changed := by
  -- Both ends are found by name, whatever stands there: a link is moved itself.
  have hmove {here there : Location} {source target : FileSystem.Place}
      (hsource : o.files.resolve false (numbered site.path number) = .ok source)
      (htarget : o.files.resolve false (numbered site.path (number + 1)) = .ok target)
      (hhere : source.location = here) (hthere : target.location = there) :
      site.Keeps fs now (o.move here there) := by
    rw [hkeeps.location_numbered hsits hsource] at hhere
    rw [hkeeps.location_numbered hsits htarget] at hthere
    rw [← hhere, ← hthere]
    exact hkeeps.move hsits hnumber
  rw [OpenFiles.rename] at h
  split at h
  · next hsource htarget =>
    cases h
    exact hmove hsource htarget rfl rfl
  · next hsource htarget =>
    split at h
    · cases h
      exact hkeeps
    · split at h
      · cases h
      · split at h
        · cases h
        · cases h
          exact hmove hsource htarget rfl rfl
  · cases h
  · cases h
  · cases h

end Steps

section Files

open RotatingFile (Step backupPath)

variable {site : Site} {fs now : FileSystem} {o : OpenFiles} {file : RotatingFile} {number : Nat}

theorem Keeps.attempt {result : Except FileSystem.Fault OpenFiles} (hkeeps : site.Keeps fs now o)
    (h : ∀ changed, result = .ok changed → site.Keeps fs now changed) :
    site.Keeps fs now (RotatingFile.attempt o result).1 := by
  cases result with
  | ok changed => exact h changed rfl
  | error fault => exact hkeeps

theorem keeps_andThen {step : Step} {next : OpenFiles → Step} (hstep : site.Keeps fs now step.1)
    (hnext : ∀ o, site.Keeps fs now o → site.Keeps fs now (next o).1) :
    site.Keeps fs now (RotatingFile.andThen step next).1 := by
  rw [RotatingFile.andThen]
  split
  · exact hnext step.1 hstep
  · exact hstep

theorem Keeps.makeRoom (hkeeps : site.Keeps fs now o) (hsits : site.Sits fs)
    (hnumber : number + 1 ≤ maxBackups) :
    site.Keeps fs now (if RotatingFile.isTaken o (backupPath site.path (number + 1)) then
      RotatingFile.attempt o (o.remove (backupPath site.path (number + 1))) else (o, true)).1 := by
  split
  · exact hkeeps.attempt fun changed hremove => hkeeps.remove hsits hnumber hremove
  · exact hkeeps

theorem Keeps.replace (hkeeps : site.Keeps fs now o) (hsits : site.Sits fs)
    (hnumber : number + 2 ≤ maxBackups) :
    site.Keeps fs now (RotatingFile.replace o (backupPath site.path (number + 1))
      (backupPath site.path (number + 2))).1 := by
  rw [RotatingFile.replace]
  split
  · refine keeps_andThen (hkeeps.makeRoom hsits hnumber) fun o hkeeps => ?_
    exact hkeeps.attempt fun changed hrename =>
      hkeeps.rename hsits (show number + 1 + 1 ≤ maxBackups from hnumber) hrename
  · exact hkeeps

theorem Keeps.shiftBackups (hkeeps : site.Keeps fs now o) (hsits : site.Sits fs)
    (hnumber : number + 1 ≤ maxBackups) :
    site.Keeps fs now (RotatingFile.shiftBackups site.path number o).1 := by
  induction number generalizing o with
  | zero => exact hkeeps
  | succ number ih =>
    rw [RotatingFile.shiftBackups]
    exact keeps_andThen (hkeeps.replace hsits hnumber) fun o hkeeps => ih hkeeps (by omega)

theorem Keeps.makeFirstBackup (hkeeps : site.Keeps fs now o) (hsits : site.Sits fs) :
    site.Keeps fs now (RotatingFile.makeFirstBackup site.path o).1 := by
  rw [RotatingFile.makeFirstBackup]
  have hroom : 0 + 1 ≤ maxBackups := by decide
  refine keeps_andThen (hkeeps.makeRoom hsits hroom) fun o hkeeps => ?_
  split
  · exact hkeeps.attempt fun changed hrename =>
      hkeeps.rename hsits hroom hrename
  · exact hkeeps

theorem Keeps.rotate (hkeeps : site.Keeps fs now o) (hsits : site.Sits fs) {backups : Nat}
    (hbackups : backups ≤ maxBackups) :
    site.Keeps fs now (RotatingFile.rotate site.path backups o).1 := by
  rw [RotatingFile.rotate]
  split
  · exact hkeeps
  · exact keeps_andThen (hkeeps.shiftBackups hsits (by omega))
      fun o hkeeps => hkeeps.makeFirstBackup hsits

/-- A log file that writes to the site. -/
structure Owns (site : Site) (file : RotatingFile) : Prop where
  path : file.path = site.path
  backups : file.backups ≤ maxBackups

theorem Keeps.opened (hkeeps : site.Keeps fs now o) (hsits : site.Sits fs)
    (howns : site.Owns file) :
    site.Keeps fs now (file.opened o).1 ∧ site.Owns (file.opened o).2 := by
  rw [RotatingFile.opened]
  split
  · exact ⟨hkeeps, howns⟩
  · split
    · next number changed hopen =>
      rw [howns.path] at hopen
      exact ⟨hkeeps.openAppend hsits hopen, howns.path, howns.backups⟩
    · exact ⟨hkeeps, howns⟩

theorem Keeps.renew (hkeeps : site.Keeps fs now o) (hsits : site.Sits fs) (howns : site.Owns file)
    (number : Nat) : site.Keeps fs now (file.renew o number).1 ∧
      site.Owns (file.renew o number).2.1 := by
  -- Whether the rotation succeeds or not, the stream is closed by then.
  have hshut : site.Owns { file with stream := none } := ⟨howns.path, howns.backups⟩
  have hrotated := (hkeeps.close number).rotate hsits howns.backups
  rw [← howns.path] at hrotated
  rw [RotatingFile.renew]
  rcases hstep : RotatingFile.rotate file.path file.backups (o.close number) with ⟨o', _ | _⟩
  · rw [hstep] at hrotated
    exact ⟨hrotated, hshut⟩
  · rw [hstep] at hrotated
    exact hrotated.opened hsits hshut

theorem Keeps.prepare (hkeeps : site.Keeps fs now o) (hsits : site.Sits fs) (howns : site.Owns file)
    (line : Option Text) : site.Keeps fs now (file.prepare o line).1 ∧
      site.Owns (file.prepare o line).2.1 := by
  obtain ⟨hopened, hfile⟩ := hkeeps.opened hsits howns
  rw [RotatingFile.prepare]
  split
  · exact ⟨hkeeps, howns⟩
  · rcases hstep : file.opened o with ⟨o', file'⟩
    rw [hstep] at hopened hfile
    simp only
    split
    · exact ⟨hopened, hfile⟩
    · split
      · exact hopened.renew hsits hfile _
      · exact ⟨hopened, hfile⟩
    · exact ⟨hopened, hfile⟩

/-- A line that is written to the log stays within its site, and so does the rotation it needs. -/
theorem Keeps.write (hkeeps : site.Keeps fs now o) (hsits : site.Sits fs) (howns : site.Owns file)
    (line : Option Text) : site.Keeps fs now (file.write o line).1 ∧
      site.Owns (file.write o line).2 := by
  obtain ⟨hprepared, hfile⟩ := hkeeps.prepare hsits howns line
  rw [RotatingFile.write]
  rcases hstep : file.prepare o line with ⟨o', file', _ | _⟩
  · rw [hstep] at hprepared hfile
    exact ⟨hprepared, hfile⟩
  · rw [hstep] at hprepared hfile
    obtain ⟨hopened, hfile⟩ := hprepared.opened hsits hfile
    simp only
    rcases hstep : file'.opened o' with ⟨o'', file''⟩
    rw [hstep] at hopened hfile
    simp only
    split
    · exact ⟨hopened.append _ _, hfile⟩
    · exact ⟨hopened, hfile⟩

end Files

end Site

end Log

end HelpText
