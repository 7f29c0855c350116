import HelpText.Proofs.Json.Ascii
import HelpText.Proofs.Log.OpenLog
import HelpText.Proofs.Log.Session
import HelpText.Proofs.Log.Shifts

/-!
Writing to a log file with its backups beside it. Main statement: a line ends the log file, and is
alone in it if the file would otherwise reach its limit, or it is lost with nothing else but the
oldest pieces of the log.
-/

namespace HelpText

namespace Log

open FileSystem (Fits)

/-- The bytes of a line if it is written: it can be, and the rotation that it may need goes through.
-/
def RotatingFile.taken (file : RotatingFile) (o : OpenFiles) : Option Text → List (List UInt8)
  | some line => if (file.prepare o (some line)).2.2 then [lineBytes line] else []
  | none => []

theorem RotatingFile.taken_sublist (file : RotatingFile) (o : OpenFiles) (line : Option Text) :
    (file.taken o line).Sublist (line.toList.map lineBytes) := by
  cases line with
  | none => exact .slnil
  | some line =>
    rw [taken]
    split
    · exact .refl _
    · exact List.nil_sublist _

theorem RotatingFile.length_lineBytes {line : Text} (h : line.IsAscii) :
    (lineBytes line).length = line.length + 1 := by
  have hascii : ∀ c ∈ line ++ ['\n'], c.toNat < 128 := by
    intro c hc
    rcases List.mem_append.mp hc with hin | hin
    · have hlast : c.toNat ≤ '~'.toNat := UInt32.le_iff_toNat_le.mp (h c hin).2
      exact Nat.lt_of_le_of_lt hlast (by decide)
    · rw [List.mem_singleton.mp hin]
      decide
  rw [lineBytes, Utf8.length_encode_of_ascii hascii, List.length_append, List.length_singleton]

/-- The log file ends with this line, and has not reached its limit unless it is this line alone. -/
def EndsWith (limit : Nat) (slot : Option (List (List UInt8))) (line : List UInt8) : Prop :=
  ∃ pieces, slot = some pieces ∧ pieces.getLast? = some line ∧
    (pieces = [line] ∨ pieces.flatten.length < limit)

/-- What lies between two states of a log in which these lines were added to it. -/
structure Extends (limit last : Nat) (before : Slots) (lines : List (List UInt8)) (after : Slots) :
    Prop where
  suffix : fromOldest after.parts last <:+ fromOldest before.parts last ++ lines
  ends : ∀ line, lines.getLast? = some line → EndsWith limit (after 0) line
  same : lines = [] → after 0 = before 0

section Extends

variable {limit last : Nat} {slots slots' slots'' : Slots} {lines lines' : List (List UInt8)}

theorem Extends.refl (limit last : Nat) (slots : Slots) : Extends limit last slots [] slots := by
  refine ⟨?_, fun line hline => ?_, fun _ => rfl⟩
  · simp only [List.append_nil, List.suffix_rfl]
  · cases hline

theorem Extends.trans (h : Extends limit last slots lines slots')
    (h' : Extends limit last slots' lines' slots'') :
    Extends limit last slots (lines ++ lines') slots'' := by
  refine ⟨?_, fun line hline => ?_, fun hnil => ?_⟩
  · rw [← List.append_assoc]
    exact h'.suffix.trans (List.suffix_append_self_iff.mpr h.suffix)
  · cases hlast : lines'.getLast? with
    | some last =>
      rw [List.getLast?_append, hlast, Option.some_or] at hline
      exact h'.ends line (hlast.trans hline)
    | none =>
      -- Nothing was added last, so the log file is as it was before that.
      have hempty : lines' = [] := List.getLast?_eq_none_iff.mp hlast
      rw [hempty, List.append_nil] at hline
      rw [h'.same hempty]
      exact h.ends line hline
  · obtain ⟨hnil, hnil'⟩ := List.append_eq_nil_iff.mp hnil
    exact (h'.same hnil').trans (h.same hnil)

/-- A log that ends with one more line. -/
theorem Extends.of_line {line : List UInt8}
    (hsuffix : fromOldest slots'.parts last <:+ fromOldest slots.parts last ++ [line])
    (hends : EndsWith limit (slots' 0) line) : Extends limit last slots [line] slots' := by
  refine ⟨hsuffix, fun other hother => ?_, fun hnil => absurd hnil (List.cons_ne_nil _ _)⟩
  obtain rfl : line = other := Option.some.inj hother
  exact hends

/-- A log to which nothing was added, if it lost some of its oldest pieces. -/
theorem Extends.of_none (hsuffix : fromOldest slots'.parts last <:+ fromOldest slots.parts last)
    (hsame : slots' 0 = slots 0) : Extends limit last slots [] slots' := by
  refine ⟨?_, fun line hline => ?_, fun _ => hsame⟩
  · rw [List.append_nil]
    exact hsuffix
  · cases hline

end Extends

/-- A log file with a limit, which is there with its backups beside it. Its stream, if it has one,
appends to it. -/
structure OnShelf (site : Site) (file : RotatingFile) (o : OpenFiles) (slots : Slots) : Prop where
  path : file.path = site.path
  limit : 0 < file.limit
  backups : 0 < file.backups
  shelf : Shelf site file.backups o.files slots
  present : ∃ pieces, slots 0 = some pieces
  stream : ∀ number, file.stream = some number → o.stream number = .attached (site.place 0)

namespace OnShelf

variable {site : Site} {file : RotatingFile} {o : OpenFiles} {slots : Slots} {number : Nat}

theorem resolve (h : OnShelf site file o slots) : ∃ pieces mode, slots 0 = some pieces ∧
    o.files.entryAt (site.place 0) = some (.file pieces.flatten mode) ∧
    o.files.resolve true file.path =
      .ok (.occupied (site.place 0) (.file pieces.flatten mode)) := by
  obtain ⟨pieces, hsome⟩ := h.present
  obtain ⟨mode, hentry, hresolve⟩ := h.shelf.found (Nat.zero_le _) hsome
  refine ⟨pieces, mode, hsome, hentry, ?_⟩
  rw [h.path]
  exact hresolve true

theorem regular (h : OnShelf site file o slots) : file.isIrregular o = false := by
  obtain ⟨pieces, mode, -, -, hresolve⟩ := h.resolve
  exact RotatingFile.isIrregular_of_file hresolve

/-- The file is opened if it is not open, and nothing else changes. -/
theorem opened (h : OnShelf site file o slots) :
    ∃ number, (file.opened o).2 = { file with stream := some number } ∧
      OnShelf site (file.opened o).2 (file.opened o).1 slots := by
  cases hstream : file.stream with
  | some number =>
    have hsame : file = { file with stream := some number } := by rw [← hstream]
    rw [RotatingFile.opened_of_open hstream]
    exact ⟨number, hsame, h⟩
  | none =>
    obtain ⟨pieces, mode, -, -, hresolve⟩ := h.resolve
    rw [RotatingFile.opened, hstream]
    simp only [OpenFiles.openAppend_of_file hresolve]
    refine ⟨o.streams.length, rfl, h.path, h.limit, h.backups, h.shelf, h.present, ?_⟩
    intro number hnumber
    obtain rfl := Option.some.inj hnumber
    exact OpenFiles.stream_append_new o _

/-- What is appended becomes the last piece of the log. -/
theorem append (h : OnShelf site file o slots) (hstream : file.stream = some number)
    {pieces : List (List UInt8)} (hsome : slots 0 = some pieces) (bytes : List UInt8) :
    OnShelf site file (o.append number bytes)
        (Function.update slots 0 (some (pieces ++ [bytes]))) ∧
      fromOldest (Slots.parts (Function.update slots 0 (some (pieces ++ [bytes])))) file.backups =
        fromOldest slots.parts file.backups ++ [bytes] := by
  have hfits := h.shelf.fits (Nat.zero_le _) hsome
  obtain ⟨mode, hentry, -⟩ := h.shelf.found (Nat.zero_le _) hsome
  have happend : o.append number bytes =
      { o with files := o.files.put (site.place 0) (.file (pieces.flatten ++ bytes) mode) } :=
    OpenFiles.append_attached (h.stream number hstream) hentry
  constructor
  · rw [happend]
    have hput := h.shelf.put (Nat.zero_le _) hfits (pieces ++ [bytes]) mode
    rw [List.flatten_append, List.flatten_singleton] at hput
    exact ⟨h.path, h.limit, h.backups, hput, ⟨_, Function.update_self ..⟩, h.stream⟩
  · refine fromOldest_append ?_ fun other hother => ?_
    · simp [Slots.parts, hsome]
    · simp [Slots.parts, Function.update_of_ne (Nat.ne_of_gt hother)]

/-- A file that is renewed is empty, and open, or it is as it was. At most the oldest pieces of the
log are lost. -/
theorem renew (h : OnShelf site file o slots) (number : Nat) :
    ∃ slots', OnShelf site (file.renew o number).2.1 (file.renew o number).1 slots' ∧
      fromOldest slots'.parts file.backups <:+ fromOldest slots.parts file.backups ∧
      slots' 0 = (if (file.renew o number).2.2 then some [] else slots 0) ∧
      ((file.renew o number).2.2 = true → ∃ next, (file.renew o number).2.1.stream = some next) ∧
      ((∀ number ≤ file.backups, Fits (numbered site.path number)) →
        (file.renew o number).2.2 = true) := by
  obtain ⟨pieces, hsome⟩ := h.present
  have hfits := h.shelf.fits (Nat.zero_le _) hsome
  have hshelf : Shelf site file.backups (o.close number).files slots := h.shelf
  obtain ⟨slots', hrotated, hsuffix, hfirst, hall⟩ := hshelf.rotate h.backups hsome
  rcases hstep : RotatingFile.rotate site.path file.backups (o.close number) with ⟨o', _ | _⟩
  -- The rotation stopped on its way: the file is closed, and stays as it was.
  · have hrenew : file.renew o number = (o', { file with stream := none }, false) := by
      rw [← h.path] at hstep
      rw [RotatingFile.renew, hstep]
    rw [hstep] at hrotated hfirst hall
    rw [hrenew]
    refine ⟨slots', ⟨h.path, h.limit, h.backups, hrotated, ⟨pieces, hfirst.trans hsome⟩, ?_⟩,
      hsuffix, hfirst, fun hwent => absurd hwent Bool.false_ne_true, hall⟩
    intro next hnext
    cases hnext
  · rw [hstep] at hrotated hfirst
    -- The place of the log file is free now, so opening it makes a new one.
    have hfree := hrotated.free (Nat.zero_le _) hfirst hfits true
    have hopen : o'.openAppend file.path = .ok (o'.streams.length, { o' with
        files := o'.files.put (site.place 0) (.file [] Entry.newFileMode)
        streams := o'.streams ++ [.attached (site.place 0)] }) := by
      rw [numbered, ← h.path] at hfree
      rw [OpenFiles.openAppend, hfree]
    have hrenew : file.renew o number = ({ o' with
        files := o'.files.put (site.place 0) (.file [] Entry.newFileMode)
        streams := o'.streams ++ [.attached (site.place 0)] },
        { file with stream := some o'.streams.length }, true) := by
      rw [← h.path] at hstep
      rw [RotatingFile.renew, hstep]
      simp only [RotatingFile.opened, hopen]
      rfl
    have hput := hrotated.put (Nat.zero_le _) hfits [] Entry.newFileMode
    -- An empty file adds no piece to the log.
    have hparts : ∀ number ≤ file.backups,
        Slots.parts (Function.update slots' 0 (some [])) number = slots'.parts number := by
      intro number _
      by_cases hzero : number = 0
      · subst hzero
        simp [Slots.parts, hfirst]
      · simp [Slots.parts, Function.update_of_ne hzero]
    rw [hrenew]
    refine ⟨Function.update slots' 0 (some []), ⟨h.path, h.limit, h.backups, hput,
      ⟨[], Function.update_self ..⟩, ?_⟩, ?_, Function.update_self .., fun _ => ⟨_, rfl⟩,
      fun _ => rfl⟩
    · intro next hnext
      obtain rfl := Option.some.inj hnext
      exact OpenFiles.stream_append_new _ _
    · rw [fromOldest_congr hparts]
      exact hsuffix

/-- What a line does to a log file that is open. -/
theorem write_open (h : OnShelf site file o slots) (hstream : file.stream = some number)
    {line : Text} (hascii : line.IsAscii) :
    ∃ slots', OnShelf site (file.write o (some line)).2 (file.write o (some line)).1 slots' ∧
      Extends file.limit file.backups slots (file.taken o (some line)) slots' ∧
      ((∀ number ≤ file.backups, Fits (numbered site.path number)) →
        file.taken o (some line) = [RotatingFile.lineBytes line]) := by
  have hregular := h.regular
  have hlength := RotatingFile.length_lineBytes hascii
  obtain ⟨pieces, mode, hsome, hentry, -⟩ := h.resolve
  cases hfull : file.isFull o number line.length with
  | false =>
    have htaken : file.taken o (some line) = [RotatingFile.lineBytes line] := by
      rw [RotatingFile.taken, RotatingFile.prepare_of_open hregular hstream]
      simp [hfull]
    -- There is room for the line and its line break: that is what was compared with the limit.
    have hroom : pieces.flatten.length + (line.length + 1) < file.limit := by
      have hsize : o.size number = pieces.flatten.length := by
        rw [OpenFiles.size, h.stream number hstream]
        simp only [FileSystem.sizeAt, hentry]
      have hlimit := h.limit
      rw [RotatingFile.isFull, hsize] at hfull
      simpa [hlimit] using hfull
    obtain ⟨happended, horder⟩ := h.append hstream hsome (RotatingFile.lineBytes line)
    rw [htaken, RotatingFile.write_room hregular hstream hfull]
    refine ⟨_, happended, .of_line ?_ ?_, fun _ => rfl⟩
    · simp only [horder, List.suffix_rfl]
    · refine ⟨_, Function.update_self .., List.getLast?_concat, Or.inr ?_⟩
      rw [List.flatten_append, List.flatten_singleton, List.length_append, hlength]
      exact hroom
  | true =>
    obtain ⟨hprepare, hwrite⟩ := RotatingFile.write_full hregular hstream hfull
    obtain ⟨slots', hrenewed, hsuffix, hfirst, hnext, hall⟩ := h.renew number
    obtain ⟨hlost, hwritten⟩ := hwrite _ rfl
    have hbackups : (file.renew o number).2.1.backups = file.backups := by
      have hshut := congrArg RotatingFile.backups (file.shut_renew o number)
      exact hshut
    cases hwent : (file.renew o number).2.2 with
    | false =>
      -- The rotation stopped on its way, so the line is lost.
      have htaken : file.taken o (some line) = [] := by
        rw [RotatingFile.taken, hprepare, hwent, if_neg Bool.false_ne_true]
      rw [hwent] at hfirst hall
      rw [htaken, hlost hwent]
      exact ⟨slots', hrenewed, .of_none hsuffix hfirst,
        fun hfits => absurd (hall hfits) Bool.false_ne_true⟩
    | true =>
      -- The line goes into a new file, and may be longer than the limit there.
      have htaken : file.taken o (some line) = [RotatingFile.lineBytes line] := by
        rw [RotatingFile.taken, hprepare, hwent, if_pos rfl]
      rw [hwent] at hfirst
      obtain ⟨next, hnumber⟩ := hnext hwent
      obtain ⟨happended, horder⟩ :=
        hrenewed.append hnumber hfirst (RotatingFile.lineBytes line)
      rw [hbackups] at horder
      rw [htaken, hwritten hwent next hnumber]
      refine ⟨_, happended, .of_line ?_ ⟨_, Function.update_self .., rfl, Or.inl rfl⟩, fun _ => rfl⟩
      rw [horder]
      exact List.suffix_append_self_iff.mpr hsuffix

/-- What writing does to a log file. A line that is taken ends the log, alone in its file if it is
too long for the limit, and only a path that is too long can keep a line from being taken. -/
theorem write (h : OnShelf site file o slots) {line : Option Text}
    (hascii : ∀ text, line = some text → text.IsAscii) :
    ∃ slots', OnShelf site (file.write o line).2 (file.write o line).1 slots' ∧
      Extends file.limit file.backups slots (file.taken o line) slots' ∧
      ((∀ number ≤ file.backups, Fits (numbered site.path number)) →
        file.taken o line = line.toList.map RotatingFile.lineBytes) := by
  -- Writing begins with opening the file, after which it goes on as for a file that was open.
  obtain ⟨number, hfile, hopened⟩ := h.opened
  generalize hstep : file.opened o = step at hfile hopened
  obtain ⟨o', file'⟩ := step
  change file' = _ at hfile
  have hstream : file'.stream = some number := by rw [hfile]
  obtain ⟨hprepare, hwrite⟩ :=
    RotatingFile.prepare_opened h.regular hstep hopened.regular hstream line
  have hbackups : file'.backups = file.backups := by rw [hfile]
  have hlimit : file'.limit = file.limit := by rw [hfile]
  cases line with
  | none =>
    rw [hwrite, RotatingFile.write_none hopened.regular hstream]
    exact ⟨slots, hopened, .refl _ _ slots, fun _ => rfl⟩
  | some line =>
    have htaken : file.taken o (some line) = file'.taken o' (some line) := by
      rw [RotatingFile.taken, RotatingFile.taken, hprepare]
    obtain ⟨slots', hwritten⟩ := hopened.write_open hstream (hascii line rfl)
    rw [hbackups, hlimit] at hwritten
    rw [hwrite, htaken]
    exact ⟨slots', hwritten⟩

end OnShelf

end Log

end HelpText
