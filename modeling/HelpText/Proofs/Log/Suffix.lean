import HelpText.Proofs.FileSystem.NormalPath
import HelpText.Proofs.Log.Appending
import HelpText.Proofs.Log.Renewal

/-!
Logs that are rotated. Main statement: the files of a log, oldest first, hold an unbroken and
unduplicated end of what was there when it was opened and of the lines that were written since.
-/

namespace HelpText

namespace Log

open FileSystem (Fits)

/-- What the file at a path holds, if there is one. -/
def contentAt (fs : FileSystem) (path : Path) : List UInt8 := (fs.readFile path).toOption.getD []

/-- What the files of a log hold: that of the last backup first, that of the log file last. -/
def wholeLog (fs : FileSystem) (path : Path) (backups : Nat) : List UInt8 :=
  fromOldest (fun number => contentAt fs (numbered path number)) backups

theorem flatten_fromOldest {α : Type} (parts : Nat → List (List α)) (last : Nat) :
    (fromOldest parts last).flatten = fromOldest (fun number => (parts number).flatten) last := by
  induction last with
  | zero => rfl
  | succ last ih => rw [fromOldest, List.flatten_append, ih, fromOldest]

/-- The line of a record is written in ASCII, whatever is in the record. -/
theorem Record.line_ascii {record : Record} {line : Text}
    (h : record.line.toOption = some line) : line.IsAscii := by
  rw [Record.line] at h
  cases hjson : record.json with
  | error fault =>
    rw [hjson] at h
    cases h
  | ok value =>
    rw [hjson] at h
    cases h
    exact Json.text_ascii value

namespace Shelf

variable {site : Site} {last number : Nat} {fs : FileSystem} {slots : Slots}

theorem contentAt_eq (h : Shelf site last fs slots) (hnumber : number ≤ last) :
    contentAt fs (numbered site.path number) = (slots.parts number).flatten := by
  rw [contentAt, h.readFile_eq hnumber, Slots.parts]
  cases slots number <;> rfl

theorem wholeLog_eq (h : Shelf site last fs slots) :
    wholeLog fs site.path last = (fromOldest slots.parts last).flatten := by
  rw [wholeLog, flatten_fromOldest]
  exact fromOldest_congr fun number hnumber => h.contentAt_eq hnumber

end Shelf

namespace Extends

variable {site : Site} {limit last : Nat} {slots slots' : Slots} {lines : List (List UInt8)}
  {before after : FileSystem}

/-- Together the files hold an end of what they held before and of the lines. -/
theorem wholeLog_suffix (h : Extends limit last slots lines slots')
    (hbefore : Shelf site last before slots) (hafter : Shelf site last after slots') :
    wholeLog after site.path last <:+ wholeLog before site.path last ++ lines.flatten := by
  obtain ⟨lost, hlost⟩ := h.suffix
  refine ⟨lost.flatten, ?_⟩
  calc lost.flatten ++ wholeLog after site.path last
      = (lost ++ fromOldest slots'.parts last).flatten := by
        rw [List.flatten_append, hafter.wholeLog_eq]
    _ = wholeLog before site.path last ++ lines.flatten := by
        rw [hlost, List.flatten_append, hbefore.wholeLog_eq]

theorem logFile_ends (h : Extends limit last slots lines slots')
    (hafter : Shelf site last after slots') {line : List UInt8}
    (hline : lines.getLast? = some line) :
    line <:+ contentAt after site.path ∧ (contentAt after site.path = line ∨
      (contentAt after site.path).length < limit) := by
  obtain ⟨pieces, hsome, hend, hsize⟩ := h.ends line hline
  have hcontent : contentAt after site.path = pieces.flatten := by
    have hzero := hafter.contentAt_eq (Nat.zero_le _)
    rw [Slots.parts, hsome] at hzero
    exact hzero
  obtain ⟨front, rfl⟩ := List.getLast?_eq_some_iff.mp hend
  rw [hcontent]
  refine ⟨⟨front.flatten, by rw [List.flatten_append, List.flatten_singleton]⟩, ?_⟩
  rcases hsize with halone | hsmall
  · rw [halone]
    exact Or.inl List.flatten_singleton
  · exact Or.inr hsmall

end Extends

namespace Service

/-- Among the handlers of a logger is one with a file, the first: this file, apart from the stream,
with its backups beside it. -/
def Shelved (s : Service) (name : Text) (kind : RotatingFile) (site : Site) (slots : Slots) :
    Prop :=
  ∃ file others, s.loggers.get? (loggerName name) = some (.file file :: others) ∧
    (∀ other, Handler.file other ∉ others) ∧ file.shut = kind ∧ OnShelf site file s.disk slots

/-- What a report adds to the log file of the logger. -/
def delivered (s : Service) (name : Text) (time : Binary64) (event : Event) : List (List UInt8) :=
  match s.handlersOf name with
  | .file file :: _ =>
    if file.Accepts event then file.taken s.disk (recordOf time name event).line.toOption else []
  | _ => []

/-- What a report adds to a log file of this level if nothing is in the way: the line of the record,
if the levels of the logger and of the file let it through and it can be written. -/
def accepted (level : Int) (name : Text) (time : Binary64) (event : Event) : List (List UInt8) :=
  if reservedKey? event = none ∧ configuredLevel ≤ event.level ∧ level ≤ event.level then
    (recordOf time name event).line.toOption.toList.map RotatingFile.lineBytes
  else []

/-- The service after these events were reported, each at its time. -/
def logAll (s : Service) (name : Text) (reports : List (Binary64 × Event)) : Service :=
  reports.foldl (fun s report => s.logAt report.1 name report.2) s

def deliveredAll (name : Text) : Service → List (Binary64 × Event) → List (List UInt8)
  | _, [] => []
  | s, (time, event) :: rest =>
    s.delivered name time event ++ deliveredAll name (s.logAt time name event) rest

def acceptedAll (level : Int) (name : Text) (reports : List (Binary64 × Event)) :
    List (List UInt8) :=
  reports.flatMap fun report => accepted level name report.1 report.2

section Runs

variable {s : Service} {name : Text} {kind : RotatingFile} {site : Site} {slots slots' : Slots}

theorem Shelved.shelf (h : s.Shelved name kind site slots) :
    Shelf site kind.backups s.disk.files slots := by
  obtain ⟨file, others, -, -, rfl, hshelf⟩ := h
  exact hshelf.shelf

/-- What one report does to the log of the logger. -/
theorem Shelved.logAt (h : s.Shelved name kind site slots) (time : Binary64) (event : Event) :
    ∃ slots', (s.logAt time name event).Shelved name kind site slots' ∧
      Extends kind.limit kind.backups slots (s.delivered name time event) slots' ∧
      (s.delivered name time event).Sublist (accepted kind.level name time event) ∧
      ((∀ number ≤ kind.backups, Fits (numbered site.path number)) →
        s.delivered name time event = accepted kind.level name time event) := by
  obtain ⟨file, others, hget, hothers, rfl, hshelf⟩ := h
  have hreport := logAt_file time event hget hothers
  have hdelivered : s.delivered name time event = if file.Accepts event then
      file.taken s.disk (recordOf time name event).line.toOption else [] := by
    rw [delivered, handlersOf, hget]
    rfl
  have haccepted : accepted file.shut.level name time event = if file.Accepts event then
      (recordOf time name event).line.toOption.toList.map RotatingFile.lineBytes else [] := rfl
  rw [hdelivered, haccepted]
  by_cases haccepts : file.Accepts event
  · rw [if_pos haccepts] at hreport
    rw [if_pos haccepts, if_pos haccepts]
    obtain ⟨slots', hwritten, hextends, hall⟩ :=
      hshelf.write fun text htext => Record.line_ascii htext
    have hshut := file.shut_write s.disk (recordOf time name event).line.toOption
    refine ⟨slots', ⟨_, others, ?_, hothers, hshut, ?_⟩, hextends, file.taken_sublist s.disk _,
      hall⟩
    · rw [hreport.2, Table.get?_put, if_pos rfl]
    · rw [hreport.1]
      exact hwritten
  · rw [if_neg haccepts] at hreport
    rw [if_neg haccepts, if_neg haccepts]
    refine ⟨slots, ⟨file, others, ?_, hothers, rfl, ?_⟩, .refl _ _ slots, .slnil, fun _ => rfl⟩
    · rw [hreport.2, hget]
    · rw [hreport.1]
      exact hshelf

theorem Shelved.logAll (h : s.Shelved name kind site slots) (reports : List (Binary64 × Event)) :
    ∃ slots', (s.logAll name reports).Shelved name kind site slots' ∧
      Extends kind.limit kind.backups slots (deliveredAll name s reports) slots' ∧
      (deliveredAll name s reports).Sublist (acceptedAll kind.level name reports) ∧
      ((∀ number ≤ kind.backups, Fits (numbered site.path number)) →
        deliveredAll name s reports = acceptedAll kind.level name reports) := by
  induction reports generalizing s slots with
  | nil => exact ⟨slots, h, .refl _ _ slots, .slnil, fun _ => rfl⟩
  | cons report rest ih =>
    obtain ⟨time, event⟩ := report
    obtain ⟨slots', hfirst, hone, hsub, hall⟩ := h.logAt time event
    obtain ⟨slots'', hlast, hrest, hsub', hall'⟩ := ih hfirst
    have haccepted : acceptedAll kind.level name ((time, event) :: rest) =
        accepted kind.level name time event ++ acceptedAll kind.level name rest := rfl
    rw [haccepted, deliveredAll]
    refine ⟨slots'', hlast, hone.trans hrest, hsub.append hsub', fun hfits => ?_⟩
    rw [hall hfits, hall' hfits]

end Runs

section Opening

/-- The path of a log file is rooted, and its names lead down. -/
theorem absolutePath_descends (fs : FileSystem) (text : Text) :
    (absolutePath fs (.read text)).root ≠ [] ∧
      ∀ name ∈ (absolutePath fs (.read text)).names, Path.Descends name := by
  -- The working directory stands before the text unless that is rooted itself.
  have hslash : Path.rootOf (FileSystem.Location.path fs.working ++ Path.read text).text ≠ [] := by
    have htext {path : Path} {rest : Text} (hroot : path.root = '/' :: rest) :
        Path.rootOf path.text ≠ [] := by
      have hpath : path.text = '/' :: (rest ++ Text.join ['/'] path.names) := by
        have hne : path.root ≠ [] := by simp [hroot]
        rw [Path.text, if_neg fun h => hne h.1, hroot, List.cons_append]
      rw [hpath]
      exact Path.rootOf_of_slash _
    change Path.rootOf (Path.append _ _).text ≠ []
    rw [Path.append]
    have hroot : (Path.read text).root = Path.rootOf text := rfl
    rcases Path.rootOf_cases text with hnone | hone | htwo
    · rw [if_pos (hroot.trans hnone)]
      exact htext rfl
    · rw [if_neg (by simp [hroot, hone])]
      exact htext (hroot.trans hone)
    · rw [if_neg (by simp [hroot, htwo])]
      exact htext (hroot.trans htwo)
  exact Path.read_normalText_descends hslash

/-- A rooted path that leads to a file has a last name. -/
theorem descends_of_file {fs : FileSystem} {path : Path} {location : Location}
    {content : List UInt8} {mode : Nat} (hroot : path.root ≠ [])
    (hnames : ∀ name ∈ path.names, Path.Descends name)
    (h : fs.resolve true path = .ok (.occupied location (.file content mode))) :
    Path.Descends path.name := by
  rw [Path.name]
  cases hlast : path.names.getLast? with
  | none =>
    -- Without a name it would lead to the root.
    obtain ⟨-, -, hfollow⟩ := (FileSystem.resolve_eq_ok_iff _ _ _ _).mp h
    rw [if_neg hroot, List.getLast?_eq_none_iff.mp hlast] at hfollow
    cases hfollow
  | some last =>
    rw [List.getLastD_eq_getLast?, hlast]
    exact hnames last (List.mem_of_getLast? hlast)

/-- The log of a logger that was just configured stands with its backups beside it, if each of them
is a file or absent. -/
theorem shelved_configure {s : Service} {name text : Text} {configuration : Configuration}
    {path : Path} (hpath : path = absolutePath s.disk.files (.read text))
    (hfile : configuration.file = some (.read text)) (hlimit : 0 < configuration.limit)
    (hbackups : 0 < configuration.backups) (hopened : (s.configure name configuration).2 = none)
    (hclear : ∀ number ≤ configuration.backups, isAbsentOrFile
      (s.configure name configuration).1.disk.files (numbered path number) = true) :
    ∃ site : Site, site.path = path ∧ (s.configure name configuration).1.Shelved name
      (opened configuration path 0).shut site fun number =>
        ((s.configure name configuration).1.disk.files.readFile
          (numbered path number)).toOption.map fun content => [content] := by
  obtain ⟨hroot, hnames⟩ := absolutePath_descends s.disk.files text
  rw [← hpath] at hroot hnames
  rcases s.configure_cases name configuration with ⟨hnone, -⟩ | ⟨other, o, hsome, -, hcases⟩
  · rw [hfile] at hnone
    cases hnone
  · obtain rfl : other = .read text := Option.some.inj (hsome.symm.trans hfile)
    rw [← hpath] at hcases
    rcases hcases with ⟨fault, heq⟩ | ⟨number, disk, hopen, heq⟩
    · rw [heq] at hopened
      cases hopened
    · obtain ⟨location, content, mode, hnumber, -, hstreams, hplace⟩ :=
        OpenFiles.openAppend_eq_ok hopen
      obtain ⟨hname, hup⟩ := descends_of_file hroot hnames hplace
      obtain ⟨directory, mode', hdirectory⟩ := FileSystem.directory_of_resolve hroot hname hplace
      have hread : disk.files.readFile path = .ok content := by
        rw [FileSystem.readFile, FileSystem.entry?.eq_def, hplace]
      rw [heq] at hclear ⊢
      have hshelf : Shelf ⟨path, directory, directory ++ [path.name]⟩ configuration.backups
          disk.files fun number => (disk.files.readFile (numbered path number)).toOption.map
            fun content => [content] :=
        shelf_of_files ⟨hroot, hname, hup, mode', hdirectory⟩ hclear
      have hzero : (disk.files.readFile (numbered path 0)).toOption.map (fun content => [content]) =
          some [content] := by
        rw [numbered, hread]
        rfl
      -- The stream is attached to the file that the path leads to, which is the first of the shelf.
      obtain ⟨mode'', -, hresolve⟩ := hshelf.found (Nat.zero_le _) hzero
      have hlocation : location = directory ++ [path.name] := by
        have hboth := hplace.symm.trans (hresolve true)
        exact (FileSystem.Place.occupied.inj (Except.ok.inj hboth)).1
      refine ⟨_, rfl, opened configuration path number, otherHandlers configuration, ?_,
        not_file_of_otherHandlers configuration, rfl, rfl, hlimit, hbackups, hshelf, ⟨_, hzero⟩, ?_⟩
      · exact (Table.get?_put _ _ _ _).trans (if_pos rfl)
      · intro stream hstream
        obtain rfl : number = stream := Option.some.inj hstream
        rw [hnumber, OpenFiles.stream, hstreams, hlocation]
        exact OpenFiles.stream_append_new _ _

/-- The files of a log, oldest first, always hold an unbroken and unduplicated end of what they held
when the logger was configured and of the lines that were delivered since, and every such line is
wholly in one file. The log file ends with the last of these lines, and is smaller than the limit
unless it is this line alone. What the levels let through and can be written is delivered, unless
the path of a backup is too long to be looked up. -/
theorem end_of_log_is_kept (s : Service) (name text : Text) (configuration : Configuration)
    (hfile : configuration.file = some (.read text)) (hlimit : 0 < configuration.limit)
    (hbackups : 0 < configuration.backups) (hopened : (s.configure name configuration).2 = none)
    (hclear : ∀ number ≤ configuration.backups,
      isAbsentOrFile (s.configure name configuration).1.disk.files
        (numbered (absolutePath s.disk.files (.read text)) number) = true)
    (reports : List (Binary64 × Event)) :
    let path := absolutePath s.disk.files (.read text)
    let first := (s.configure name configuration).1
    let last := first.logAll name reports
    let lines := deliveredAll name first reports
    wholeLog last.disk.files path configuration.backups <:+
      wholeLog first.disk.files path configuration.backups ++ lines.flatten ∧
    (∃ pieces : Nat → List (List UInt8),
      (∀ number ≤ configuration.backups,
        contentAt last.disk.files (numbered path number) = (pieces number).flatten) ∧
      fromOldest pieces configuration.backups <:+
        fromOldest (fun number =>
          (first.disk.files.readFile (numbered path number)).toOption.toList)
            configuration.backups ++ lines) ∧
    (∀ line, lines.getLast? = some line → line <:+ contentAt last.disk.files path ∧
      (contentAt last.disk.files path = line ∨
        (contentAt last.disk.files path).length < configuration.limit)) ∧
    lines.Sublist (acceptedAll (levelOf configuration.level) name reports) ∧
    ((∀ number ≤ configuration.backups, ∃ place,
      first.disk.files.resolve false (numbered path number) = .ok place) →
        lines = acceptedAll (levelOf configuration.level) name reports) := by
  intro path first last lines
  obtain ⟨site, hpath, hfirst⟩ :=
    shelved_configure (rfl : path = _) hfile hlimit hbackups hopened hclear
  obtain ⟨slots, hlast, hextends, hsublist, hall⟩ := hfirst.logAll reports
  have hbefore : Shelf site configuration.backups first.disk.files _ := hfirst.shelf
  have hafter : Shelf site configuration.backups last.disk.files slots := hlast.shelf
  rw [← hpath]
  refine ⟨hextends.wholeLog_suffix hbefore hafter,
    ⟨slots.parts, fun number hnumber => hafter.contentAt_eq hnumber, ?_⟩,
    fun line hline => hextends.logFile_ends hafter hline, hsublist, fun hresolve => ?_⟩
  · -- At first the content of each file is one piece.
    have hparts : ∀ number ≤ configuration.backups,
        Slots.parts (fun number => (first.disk.files.readFile (numbered path number)).toOption.map
          fun content => [content]) number =
        (first.disk.files.readFile (numbered path number)).toOption.toList := by
      intro number _
      rw [Slots.parts]
      cases (first.disk.files.readFile (numbered path number)).toOption <;> rfl
    rw [hpath, ← fromOldest_congr hparts]
    exact hextends.suffix
  · refine hall fun number hnumber => ?_
    obtain ⟨place, hplace⟩ := hresolve number hnumber
    exact hbefore.fits_of_resolve hplace

/-- A file system with a second backup of a log that has no first one. -/
def oldBackup : FileSystem where
  entries := [([.of "w"], .directory Entry.newDirectoryMode),
    ([.of "w", .of "run.log.2"], .file (Utf8.encode (.of "old")) Entry.newFileMode)]
  working := [.of "w"]
  home := .read (.of "/w")

/-- A limit that every line reaches. -/
def oneLine : Configuration where
  file := some (.read (.of "run.log"))
  limit := 60
  backups := 2

def threeReports : List (Binary64 × Event) :=
  [(noTime, { level := 20, template := .of "x" }), (noTime, { level := 40, template := .of "y" }),
    (noTime, { level := 20, template := .of "z" })]

def oneLineLog : Service := ((atFirst oldBackup noTime).configure (.of "a") oneLine).1

theorem end_of_log_is_kept_by_rotation :
    ((atFirst oldBackup noTime).configure (.of "a") oneLine).2 = none ∧
      wholeLog oneLineLog.disk.files (.read (.of "/w/run.log")) 2 = Utf8.encode (.of "old") ∧
      wholeLog (oneLineLog.logAll (.of "a") threeReports).disk.files
          (.read (.of "/w/run.log")) 2 <:+
        wholeLog oneLineLog.disk.files (.read (.of "/w/run.log")) 2 ++
          (deliveredAll (.of "a") oneLineLog threeReports).flatten ∧
      deliveredAll (.of "a") oneLineLog threeReports = acceptedAll 20 (.of "a") threeReports ∧
      (acceptedAll 20 (.of "a") threeReports).length = 3 ∧
      contentAt (oneLineLog.logAll (.of "a") threeReports).disk.files
        (.read (.of "/w/run.log.2")) ≠ Utf8.encode (.of "old") := by
  have hopened : ((atFirst oldBackup noTime).configure (.of "a") oneLine).2 = none := by
    decide +kernel
  have hpath : absolutePath (atFirst oldBackup noTime).disk.files (.read (.of "run.log")) =
      .read (.of "/w/run.log") := by
    decide +kernel
  have hclear : ∀ number ≤ oneLine.backups, isAbsentOrFile
      ((atFirst oldBackup noTime).configure (.of "a") oneLine).1.disk.files
      (numbered (absolutePath (atFirst oldBackup noTime).disk.files (.read (.of "run.log")))
        number) = true := by
    decide +kernel
  have hfound : ∀ number ≤ oneLine.backups, (oneLineLog.disk.files.resolve false
      (numbered (.read (.of "/w/run.log")) number)).isOk = true := by
    decide +kernel
  obtain ⟨hwhole, -, -, -, hall⟩ := end_of_log_is_kept (atFirst oldBackup noTime) (.of "a")
    (.of "run.log") oneLine rfl (by decide) (by decide) hopened hclear threeReports
  have hlevel : levelOf oneLine.level = 20 := by decide
  have hlog : ((atFirst oldBackup noTime).configure (.of "a") oneLine).1 = oneLineLog := rfl
  have htwo : oneLine.backups = 2 := rfl
  rw [hpath, hlog, htwo] at hwhole
  rw [hpath, hlog, hlevel] at hall
  refine ⟨hopened, by decide +kernel, hwhole, hall fun number hnumber => ?_, by decide +kernel,
    by decide +kernel⟩
  have hok := hfound number hnumber
  cases hresolve : oneLineLog.disk.files.resolve false
      (numbered (.read (.of "/w/run.log")) number) with
  | ok place => exact ⟨place, rfl⟩
  | error fault =>
    rw [hresolve] at hok
    cases hok

/-- A file system with a link to a directory that is not where the link is. -/
def linked : FileSystem where
  entries := [([.of "w"], .directory Entry.newDirectoryMode),
    ([.of "w", .of "d"], .directory Entry.newDirectoryMode),
    ([.of "w", .of "d", .of "sub"], .directory Entry.newDirectoryMode),
    ([.of "w", .of "link"], .link (.of "d/sub"))]
  working := [.of "w"]
  home := .read (.of "/w")

/-- A log file beyond a link and `..`, with the usual limit and backups. -/
def beyondLink : Configuration where
  file := some (.read (.of "link/../r.log"))

def oneReport : List (Binary64 × Event) := [(noTime, { level := 20, template := .of "x" })]

def beyondLinkLog : Service := ((atFirst linked noTime).configure (.of "a") beyondLink).1

/-- Behind a link `..` leads to the directory above the target of the link, but the log file is
opened beside the link. So what the path of the log file leads to stays absent, and does not end
with the line that is delivered. -/
theorem log_file_is_not_where_its_path_leads :
    0 < beyondLink.limit ∧ 0 < beyondLink.backups ∧
      ((atFirst linked noTime).configure (.of "a") beyondLink).2 = none ∧
      (∀ number ≤ beyondLink.backups,
        isAbsentOrFile linked (numbered (.read (.of "link/../r.log")) number) = true ∧
        isAbsentOrFile beyondLinkLog.disk.files (numbered (.read (.of "link/../r.log")) number) =
          true) ∧
      ∃ line ∈ (deliveredAll (.of "a") beyondLinkLog oneReport).getLast?,
        ¬line <:+ contentAt (beyondLinkLog.logAll (.of "a") oneReport).disk.files
            (.read (.of "link/../r.log")) ∧
          contentAt (beyondLinkLog.logAll (.of "a") oneReport).disk.files (.read (.of "r.log")) =
            line := by
  decide +kernel

end Opening

end Service

end Log

end HelpText
