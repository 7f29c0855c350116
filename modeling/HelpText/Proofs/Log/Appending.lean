import HelpText.Proofs.Log.OpenLog
import HelpText.Proofs.Log.Session

/-!
Logs that are never rotated. Main statement: of all log files that were configured so far, a report
to a logger adds one line to the file of its last configuration, if the levels let it through, and
nothing else.
-/

namespace HelpText

open FileSystem (Grows)

/-- Everything stands where it stood, and of the streams there were only those with these numbers
may have changed. -/
structure OpenFiles.Advances (own : List Nat) (o after : OpenFiles) : Prop where
  grows : Grows o.files after.files
  longer : o.streams.length ≤ after.streams.length
  others : ∀ number < o.streams.length, number ∉ own → after.stream number = o.stream number

namespace OpenFiles.Advances

variable {own own' : List Nat} {o middle after : OpenFiles} {number : Nat}

theorem refl (own : List Nat) (o : OpenFiles) : Advances own o o :=
  ⟨.refl _, Nat.le_refl _, fun _ _ _ => rfl⟩

theorem trans (h : Advances own o middle) (h' : Advances own middle after) :
    Advances own o after := by
  refine ⟨h.grows.trans h'.grows, Nat.le_trans h.longer h'.longer, fun number hlt hown => ?_⟩
  have hmiddle : number < middle.streams.length := Nat.lt_of_lt_of_le hlt h.longer
  exact (h'.others number hmiddle hown).trans (h.others number hlt hown)

theorem mono (h : Advances own o after) (hsub : own ⊆ own') : Advances own' o after :=
  ⟨h.grows, h.longer, fun number hlt hown => h.others number hlt fun hin => hown (hsub hin)⟩

theorem close (o : OpenFiles) (number : Nat) : Advances [number] o (o.close number) := by
  refine ⟨.refl _, ?_, fun other _ hown => ?_⟩
  · simp [OpenFiles.close]
  · exact stream_close fun heq => hown (List.mem_singleton.mpr heq)

theorem closeAll (numbers : List Nat) (o : OpenFiles) :
    Advances numbers o (numbers.foldl OpenFiles.close o) := by
  induction numbers generalizing o with
  | nil => exact refl _ o
  | cons number rest ih =>
    have hfirst : Advances (number :: rest) o (o.close number) := (close o number).mono (by simp)
    exact hfirst.trans ((ih _).mono (List.subset_cons_self _ _))

theorem openAppend {path : Path} {disk : OpenFiles}
    (h : o.openAppend path = .ok (number, disk)) : Advances [] o disk := by
  obtain ⟨location, content, mode, -, hgrows, hstreams, -⟩ := openAppend_eq_ok h
  refine ⟨hgrows, by simp [hstreams], fun other hlt _ => ?_⟩
  rw [stream, hstreams]
  exact stream_append_old hlt

theorem append (o : OpenFiles) (number : Nat) {location : Location} {old content : List UInt8}
    {mode : Nat} (h : o.stream number = .attached location)
    (hfile : o.files.entryAt location = some (.file old mode)) :
    Advances [] o (o.append number content) := by
  rw [append_attached h hfile]
  exact ⟨.put_file hfile, Nat.le_refl _, fun _ _ _ => rfl⟩

end OpenFiles.Advances

namespace Log

open OpenFiles (Advances)

namespace RotatingFile

/-- A log file that is open: its stream appends to the file that its path leads to. -/
structure IsOpen (file : RotatingFile) (o : OpenFiles) (number : Nat) (location : Location) :
    Prop where
  stream : file.stream = some number
  attached : o.stream number = .attached location
  leads : ∃ content mode, o.files.resolve true file.path =
    .ok (.occupied location (.file content mode))

/-- A log file without a limit, or without backups. -/
def Unrotated (file : RotatingFile) : Prop := file.limit = 0 ∨ file.backups = 0

variable {file : RotatingFile} {o after : OpenFiles} {number : Nat} {location : Location}
  {own : List Nat}

theorem IsOpen.advance (h : file.IsOpen o number location) (hadvances : Advances own o after)
    (hother : number ∉ own) : file.IsOpen after number location := by
  have hlt := OpenFiles.lt_length_of_attached h.attached
  obtain ⟨content, mode, hplace⟩ := h.leads
  obtain ⟨entry, halike, hplace'⟩ := hadvances.grows.resolve_occupied hplace
  obtain ⟨content', mode', rfl⟩ := halike.of_file
  exact ⟨h.stream, (hadvances.others number hlt hother).trans h.attached, content', mode', hplace'⟩

/-- An open file stays open when it is appended to. -/
theorem IsOpen.append (h : file.IsOpen o number location) (content : List UInt8) :
    Advances [] o (o.append number content) ∧
      file.IsOpen (o.append number content) number location ∧
      (o.append number content).files = o.files.appendAt location content := by
  obtain ⟨old, mode, hplace⟩ := h.leads
  have hfile := FileSystem.isIn_of_resolve hplace
  have hadvances : Advances [] o (o.append number content) :=
    Advances.append o number h.attached hfile
  refine ⟨hadvances, h.advance hadvances (List.not_mem_nil), ?_⟩
  rw [OpenFiles.append, h.attached]

/-- Without backups, renewing a file only gives it another stream. -/
theorem IsOpen.renew (h : file.IsOpen o number location) (hbackups : file.backups = 0) :
    ∃ renewed, file.renew o number =
        (renewed, { file with stream := some o.streams.length }, true) ∧
      renewed.files = o.files ∧ Advances [number] o renewed ∧
      { file with stream := some o.streams.length }.IsOpen renewed o.streams.length location := by
  obtain ⟨content, mode, hplace⟩ := h.leads
  have hopen : (o.close number).openAppend file.path = .ok ((o.close number).streams.length,
      { o.close number with streams := (o.close number).streams ++ [.attached location] }) :=
    OpenFiles.openAppend_of_file (o := o.close number) hplace
  have hlength : (o.close number).streams.length = o.streams.length := List.length_set
  have hadvances := (Advances.openAppend hopen).mono (List.nil_subset [number])
  refine ⟨{ o.close number with streams := (o.close number).streams ++ [.attached location] }, ?_,
    rfl, (Advances.close o number).trans hadvances, ⟨rfl, ?_, content, mode, hplace⟩⟩
  · rw [RotatingFile.renew, rotate, if_pos hbackups]
    simp only [opened, hopen, hlength]
    rfl
  · rw [← hlength]
    exact OpenFiles.stream_append_new _ _

/-- What writing does to a file that is open and never rotated: it adds the line, and leaves the
file open, if by another stream. -/
theorem IsOpen.write (h : file.IsOpen o number location) (hkind : file.Unrotated)
    (line : Option Text) :
    ∃ next, (next = number ∨ o.streams.length ≤ next) ∧
      (file.write o line).2 = { file with stream := some next } ∧
      Advances [number] o (file.write o line).1 ∧
      (file.write o line).2.IsOpen (file.write o line).1 next location ∧
      (file.write o line).1.files = match line with
        | some line => o.files.appendAt location (lineBytes line)
        | none => o.files := by
  have hsame : file = { file with stream := some number } := by rw [← h.stream]
  obtain ⟨content, mode, hplace⟩ := h.leads
  have hregular := isIrregular_of_file hplace
  cases line with
  | none =>
    rw [write_none hregular h.stream]
    exact ⟨number, Or.inl rfl, hsame, .refl _ o, h, rfl⟩
  | some line =>
    cases hfull : file.isFull o number line.length with
    | false =>
      obtain ⟨hadvances, hopen, hfiles⟩ := h.append (lineBytes line)
      rw [write_room hregular h.stream hfull]
      exact ⟨number, Or.inl rfl, hsame, hadvances.mono (List.nil_subset _), hopen, hfiles⟩
    | true =>
      -- Only a file with a limit gets full, so this one has no backups.
      have hbackups : file.backups = 0 := by
        refine hkind.resolve_left fun hlimit => ?_
        simp [isFull, hlimit] at hfull
      obtain ⟨renewed, hrenewed, hfiles, hadvances, hopen⟩ := h.renew hbackups
      obtain ⟨-, hwritten⟩ := write_full hregular h.stream hfull
      have hwrite := (hwritten _ hrenewed).2 rfl _ rfl
      obtain ⟨hadvances', hopen', hfiles'⟩ := hopen.append (lineBytes line)
      rw [hwrite]
      refine ⟨o.streams.length, Or.inr (Nat.le_refl _), rfl,
        hadvances.trans (hadvances'.mono (List.nil_subset _)), hopen', ?_⟩
      rw [hfiles', hfiles]

end RotatingFile

namespace Service

/-- All log files are open, each by a stream of its own, and are never rotated. -/
structure Appending (s : Service) : Prop where
  tidy : s.Tidy
  opened : ∀ name file others, s.loggers.get? name = some (.file file :: others) →
    file.Unrotated ∧ ∃ number location, file.IsOpen s.disk number location
  apart : ∀ name name' file file' others others',
    s.loggers.get? name = some (.file file :: others) →
    s.loggers.get? name' = some (.file file' :: others') → file.stream = file'.stream → name = name'

variable {s t : Service} {name : Text} {handlers : List Handler} {own : List Nat}

/-- The handlers of one logger may change, and its own streams, as long as it has an open file again
if it has one at all. -/
theorem Appending.replace (h : s.Appending) (hloggers : t.loggers = s.loggers.put name handlers)
    (hdisk : Advances own s.disk t.disk)
    (hown : ∀ number ∈ own, ∃ file others,
      s.loggers.get? name = some (.file file :: others) ∧ file.stream = some number)
    (htail : ∀ file, Handler.file file ∉ handlers.tail)
    (hnew : ∀ file others, handlers = .file file :: others → file.Unrotated ∧
      ∃ number location, file.IsOpen t.disk number location ∧
        (number ∈ own ∨ s.disk.streams.length ≤ number)) : t.Appending := by
  have hget (other : Text) :
      t.loggers.get? other = if other = name then some handlers else s.loggers.get? other := by
    rw [hloggers, Table.get?_put]
  -- The streams of the other loggers are neither among those that may have changed nor new.
  have hothers : ∀ other file others, other ≠ name →
      s.loggers.get? other = some (.file file :: others) →
      ∃ number location, file.IsOpen s.disk number location ∧ number ∉ own ∧
        number < s.disk.streams.length := by
    intro other file others hne hfound
    obtain ⟨-, number, location, hopen⟩ := h.opened other file others hfound
    refine ⟨number, location, hopen, fun hin => ?_, OpenFiles.lt_length_of_attached hopen.attached⟩
    obtain ⟨file', others', hfound', hstream⟩ := hown number hin
    exact hne (h.apart _ _ _ _ _ _ hfound hfound' (hopen.stream.trans hstream.symm))
  have hfresh : ∀ other file file' others others', other ≠ name →
      s.loggers.get? other = some (.file file :: others) → handlers = .file file' :: others' →
      file.stream ≠ file'.stream := by
    intro other file file' others others' hne hfound hhandlers heq
    obtain ⟨number, location, hopen, hnot, hlt⟩ := hothers other file others hne hfound
    obtain ⟨-, number', location', hopen', hchanged⟩ := hnew file' others' hhandlers
    have hsame : number = number' := by
      rw [hopen.stream, hopen'.stream] at heq
      exact Option.some.inj heq
    rcases hchanged with hin | hle
    · exact hnot (hsame ▸ hin)
    · omega
  -- Another logger keeps its open file; this one has a stream that no other logger has.
  refine ⟨tidy_put h.tidy htail hloggers, ?_, ?_⟩
  · intro other file others hfound
    rw [hget] at hfound
    split at hfound
    · obtain ⟨hkind, number, location, hopen, -⟩ := hnew file others (Option.some.inj hfound)
      exact ⟨hkind, number, location, hopen⟩
    · next hne =>
      obtain ⟨number, location, hopen, hnot, -⟩ := hothers other file others hne hfound
      exact ⟨(h.opened other file others hfound).1, number, location, hopen.advance hdisk hnot⟩
  · intro first second file file' others others' hfirst hsecond heq
    rw [hget] at hfirst hsecond
    split at hfirst <;> split at hsecond
    · next hname hname' => rw [hname, hname']
    · next hne =>
      exact absurd heq.symm (hfresh second file' file others' others hne hsecond
        (Option.some.inj hfirst))
    · next hne _ =>
      exact absurd heq (hfresh first file file' others others' hne hfirst (Option.some.inj hsecond))
    · exact h.apart _ _ _ _ _ _ hfirst hsecond heq

/-- Taking the handlers of a logger away closes its own streams only. -/
theorem readied_advances (htidy : s.Tidy) (name : Text) :
    ∃ own, Advances own s.disk (s.readied name).disk ∧
      ∀ number ∈ own, ∃ file others,
        s.loggers.get? (loggerName name) = some (.file file :: others) ∧
          file.stream = some number := by
  refine ⟨((s.loggers.get? (loggerName name)).getD []).filterMap streamOf,
    Advances.closeAll _ s.disk, fun number hin => ?_⟩
  obtain ⟨handler, hhandler, hstream⟩ := List.mem_filterMap.mp hin
  cases hget : s.loggers.get? (loggerName name) with
  | none => simp [hget] at hhandler
  | some handlers =>
    rw [hget, Option.getD_some] at hhandler
    cases handlers with
    | nil => cases hhandler
    | cons first others =>
      cases handler with
      | file file =>
        rcases List.mem_cons.mp hhandler with heq | hrest
        · exact ⟨file, others, by rw [heq], hstream⟩
        · exact absurd hrest (htidy _ _ hget file)
      | console => cases hstream
      | silent => cases hstream

theorem Appending.configure (h : s.Appending) (name : Text) {configuration : Configuration}
    (hkind : configuration.limit = 0 ∨ configuration.backups = 0) :
    (s.configure name configuration).1.Appending := by
  obtain ⟨own, hclosed, hown⟩ := readied_advances h.tidy name
  have hothers := not_file_of_otherHandlers configuration
  rcases s.configure_cases name configuration with ⟨-, heq⟩ | ⟨path, o, -, rfl, hcases⟩
  · rw [heq]
    refine h.replace rfl hclosed hown (fun file hin => hothers file (List.mem_of_mem_tail hin))
      fun file others hhandlers => ?_
    exact absurd (hhandlers ▸ List.mem_cons_self) (hothers file)
  · -- The directories above the file are made whether it can be opened or not.
    have hmade : Advances [] (s.readied name).disk ((s.readied name).disk.withFiles
        (s.disk.files.makePath true Entry.newDirectoryMode path.parent).1) := by
      refine ⟨?_, Nat.le_refl _, fun _ _ _ => rfl⟩
      rw [readied_files]
      exact (FileSystem.makePath_madeAlong _ true Entry.newDirectoryMode path.parent).grows
    have hready := hclosed.trans (hmade.mono (List.nil_subset own))
    rcases hcases with ⟨fault, heq⟩ | ⟨number, disk, hopen, heq⟩
    · rw [heq]
      exact h.replace rfl hready hown (fun file hin => by cases hin)
        fun file others hhandlers => by cases hhandlers
    · obtain ⟨location, content, mode, hnumber, -, hstreams, hplace⟩ :=
        OpenFiles.openAppend_eq_ok hopen
      have hadvances := hready.trans ((Advances.openAppend hopen).mono (List.nil_subset own))
      rw [heq]
      refine h.replace rfl hadvances hown hothers fun file others hhandlers => ?_
      obtain ⟨hfile, -⟩ := List.cons.inj hhandlers
      obtain rfl := Handler.file.inj hfile
      refine ⟨hkind, number, location, ⟨rfl, ?_, content, mode, hplace⟩, Or.inr ?_⟩
      · rw [hnumber, OpenFiles.stream, hstreams]
        exact OpenFiles.stream_append_new _ _
      · rw [hnumber]
        exact hready.longer

theorem Appending.logAt (h : s.Appending) (time : Binary64) (name : Text) (event : Event) :
    (s.logAt time name event).Appending := by
  rcases logAt_cases h.tidy time name event with
    ⟨hdisk, hloggers⟩ | ⟨owner, file, others, line, hget, hdisk, hloggers⟩
  · refine ⟨fun other found hget => h.tidy other found (hloggers ▸ hget), ?_, ?_⟩
    · intro other file others hget
      rw [hdisk]
      exact h.opened other file others (hloggers ▸ hget)
    · intro first second file file' others others' hfirst hsecond
      exact h.apart _ _ _ _ _ _ (hloggers ▸ hfirst) (hloggers ▸ hsecond)
  -- The owner of the logger goes on with what the writing has made of its file.
  · obtain ⟨hkind, number, location, hopen⟩ := h.opened owner file others hget
    obtain ⟨next, hnext, hsame, hadvances, hopen', -⟩ := hopen.write hkind line
    have hothers : ∀ other, Handler.file other ∉ others := h.tidy owner _ hget
    refine h.replace hloggers (hdisk ▸ hadvances) ?_ hothers ?_
    · intro found hin
      obtain rfl := List.mem_singleton.mp hin
      exact ⟨file, others, hget, hopen.stream⟩
    · intro written others' hhandlers
      obtain ⟨hfile, -⟩ := List.cons.inj hhandlers
      obtain rfl := Handler.file.inj hfile
      refine ⟨?_, next, location, hdisk ▸ hopen', ?_⟩
      · rw [hsame]
        exact hkind
      · rcases hnext with rfl | hle
        · exact Or.inl (List.mem_singleton_self _)
        · exact Or.inr hle

theorem Appending.performAll (h : s.Appending) {calls : List Call}
    (hkind : ∀ name configuration, Call.configure name configuration ∈ calls →
      configuration.limit = 0 ∨ configuration.backups = 0) : (s.performAll calls).Appending := by
  induction calls generalizing s with
  | nil => exact h
  | cons call rest ih =>
    have hfirst : (s.perform call).Appending := by
      cases call with
      | configure name configuration =>
        exact h.configure name (hkind name configuration List.mem_cons_self)
      | log time name event => exact h.logAt time name event
    exact ih hfirst fun name configuration hin =>
      hkind name configuration (List.mem_cons_of_mem _ hin)

theorem appending_atFirst (fs : FileSystem) (clock : Binary64) : (atFirst fs clock).Appending := by
  refine ⟨fun _ _ hget => ?_, fun _ _ _ hget => ?_, fun _ _ _ _ _ _ hget => ?_⟩ <;> cases hget

/-- What is reported to a logger with a file adds a line to the file that its path leads to, from
the levels of the logger and the file on. -/
theorem Appending.logAt_files (h : s.Appending) {file : RotatingFile} {others : List Handler}
    (hget : s.loggers.get? (loggerName name) = some (.file file :: others)) :
    ∃ location content mode,
      s.disk.files.resolve true file.path = .ok (.occupied location (.file content mode)) ∧
      ∀ time event, (s.logAt time name event).disk.files =
        match (recordOf time name event).line with
        | .ok line =>
          if file.Accepts event then
            s.disk.files.put location (.file (content ++ RotatingFile.lineBytes line) mode)
          else s.disk.files
        | .error _ => s.disk.files := by
  obtain ⟨hkind, number, location, hopen⟩ := h.opened _ file others hget
  obtain ⟨content, mode, hplace⟩ := hopen.leads
  refine ⟨location, content, mode, hplace, fun time event => ?_⟩
  obtain ⟨next, -, -, -, -, hfiles⟩ := hopen.write hkind (recordOf time name event).line.toOption
  have hreport := logAt_file time event hget (h.tidy _ _ hget)
  have hentry : s.disk.files.entryAt location = some (.file content mode) :=
    FileSystem.isIn_of_resolve hplace
  -- A record that cannot be written adds nothing, whether the file takes it or not.
  split at hreport
  · next haccepts =>
    rw [hreport.1, hfiles]
    cases (recordOf time name event).line with
    | error fault => rfl
    | ok line =>
      simp only [Except.toOption, FileSystem.appendAt, hentry, if_pos haccepts]
  · next hnot =>
    rw [hreport.1]
    cases (recordOf time name event).line with
    | error fault => rfl
    | ok line => simp only [if_neg hnot]

/-- A logger whose first handler is a file, apart from the stream, has such a handler. -/
theorem file_of_handlers {file : RotatingFile} {rest : List Handler}
    (h : (s.handlersOf name).map Handler.shut = .file file :: rest) :
    ∃ file' others, s.loggers.get? (loggerName name) = some (.file file' :: others) ∧
      file'.shut = file := by
  rw [handlersOf] at h
  cases hget : s.loggers.get? (loggerName name) with
  | none =>
    rw [hget] at h
    cases h
  | some handlers =>
    rw [hget, Option.getD_some] at h
    cases handlers with
    | nil => cases h
    | cons handler others =>
      obtain ⟨hfirst, -⟩ := List.cons.inj h
      cases handler with
      | file file' => exact ⟨file', others, rfl, Handler.file.inj hfirst⟩
      | console => cases hfirst
      | silent => cases hfirst

/-- A logger has the handlers of its last configuration, or none if that failed, whatever was done
to loggers before, to other loggers since, and whatever was reported. So if no log is ever rotated,
a report to it adds one line to the file of that configuration, if the event can be a record that
can be written and the levels of the logger and of the file let it through, and changes no other
file. -/
theorem last_configuration_holds (fs : FileSystem) (clock : Binary64) (before after : List Call)
    (name : Text) (configuration : Configuration)
    (hlast : ∀ other configuration, Call.configure other configuration ∈ after →
      loggerName other ≠ loggerName name) :
    let earlier := (atFirst fs clock).performAll before
    let now := earlier.performAll (.configure name configuration :: after)
    ((now.handlersOf name).map Handler.shut =
      if (earlier.configure name configuration).2 = none then
        configuration.handlers earlier.disk.files
      else []) ∧
    ∀ path, configuration.file = some path → (earlier.configure name configuration).2 = none →
      (∀ other configuration', Call.configure other configuration' ∈
        before ++ .configure name configuration :: after →
          configuration'.limit = 0 ∨ configuration'.backups = 0) →
      ∃ location content mode,
        now.disk.files.resolve true (absolutePath earlier.disk.files path) =
          .ok (.occupied location (.file content mode)) ∧
        ∀ time event, (now.logAt time name event).disk.files =
          match (recordOf time name event).line with
          | .ok line =>
            if reservedKey? event = none ∧ 10 ≤ event.level ∧
                levelOf configuration.level ≤ event.level then
              now.disk.files.put location (.file (content ++ RotatingFile.lineBytes line) mode)
            else now.disk.files
          | .error _ => now.disk.files := by
  intro earlier now
  have hfirst := appending_atFirst fs clock
  have htidy : earlier.Tidy := hfirst.tidy.performAll before
  have hhandlers := handlersOf_performAll htidy name configuration hlast
  refine ⟨hhandlers, fun path hpath hopened hkinds => ?_⟩
  have hnow : now.Appending := by
    have hwhole : (atFirst fs clock).performAll (before ++ .configure name configuration :: after) =
        now := List.foldl_append
    rw [← hwhole]
    exact hfirst.performAll hkinds
  -- The first handler is the file of the configuration, whatever stream it has by now.
  rw [if_pos hopened, Configuration.handlers, hpath] at hhandlers
  obtain ⟨file, others, hget, hfile⟩ : ∃ file others,
      now.loggers.get? (loggerName name) = some (.file file :: others) ∧
        file.path = absolutePath earlier.disk.files path ∧
        file.level = levelOf configuration.level := by
    obtain ⟨file, others, hget, hshut⟩ := file_of_handlers hhandlers
    exact ⟨file, others, hget, congrArg RotatingFile.path hshut, congrArg RotatingFile.level hshut⟩
  obtain ⟨location, content, mode, hplace, hfiles⟩ := hnow.logAt_files hget
  rw [hfile.1] at hplace
  refine ⟨location, content, mode, hplace, fun time event => ?_⟩
  rw [hfiles, ← hfile.2]
  rfl

/-- A file system with a working directory and nothing in it. -/
def bare : FileSystem where
  entries := [([.of "w"], .directory Entry.newDirectoryMode)]
  working := [.of "w"]
  home := .read (.of "/w")

/-- A configuration with this file, without rotation. -/
def toFile (file : Text) : Configuration where
  level := .of "warning"
  verbose := true
  file := some (.read file)
  limit := 0

def noTime : Binary64 := .finite false 0 0

theorem exists_line {record : Record} (h : record.line.toOption.isSome = true) :
    ∃ line, record.line = .ok line := by
  cases hline : record.line with
  | ok line => exact ⟨line, rfl⟩
  | error fault =>
    rw [hline] at h
    cases h

/-- A logger gets a file, and a logger below it the one that comes next. -/
def callsBefore : List Call :=
  [.configure (.of "a") (toFile (.of "old.log")), .configure (.of "a.b") (toFile (.of "d/new.log"))]

def reconfigured : Configuration := toFile (.of "d/./new.log")

/-- Another logger cannot be configured, and a record is reported to the logger below. -/
def callsAfter : List Call :=
  [.configure (.of "c") (toFile (.of "d")),
    .log noTime (.of "a.b") { level := 40, template := .of "x" }]

def warned : Event := { level := 30, template := .of "y" }

theorem last_configuration_holds_again :
    (((atFirst bare noTime).performAll callsBefore).configure (.of "a") reconfigured).2 = none ∧
      ((((atFirst bare noTime).performAll callsBefore).performAll
          (.configure (.of "a") reconfigured :: callsAfter)).handlersOf
            (.of "a")).map Handler.shut =
        reconfigured.handlers ((atFirst bare noTime).performAll callsBefore).disk.files ∧
      ∃ location content mode line,
        (((atFirst bare noTime).performAll callsBefore).performAll
            (.configure (.of "a") reconfigured :: callsAfter)).disk.files.resolve true
              (.read (.of "/w/d/new.log")) =
          .ok (.occupied location (.file content mode)) ∧
        (recordOf noTime (.of "a") warned).line = .ok line ∧
        ((((atFirst bare noTime).performAll callsBefore).performAll
            (.configure (.of "a") reconfigured :: callsAfter)).logAt noTime (.of "a")
              warned).disk.files =
          (((atFirst bare noTime).performAll callsBefore).performAll
            (.configure (.of "a") reconfigured :: callsAfter)).disk.files.put location
              (.file (content ++ RotatingFile.lineBytes line) mode) := by
  have hlast : ∀ other configuration, Call.configure other configuration ∈ callsAfter →
      loggerName other ≠ loggerName (.of "a") := by
    intro other configuration hin
    simp only [callsAfter, List.mem_cons, Call.configure.injEq, reduceCtorEq, List.not_mem_nil,
      or_false] at hin
    rw [hin.1]
    decide
  have hkinds : ∀ other configuration, Call.configure other configuration ∈
      callsBefore ++ .configure (.of "a") reconfigured :: callsAfter →
        configuration.limit = 0 ∨ configuration.backups = 0 := by
    intro other configuration hin
    simp only [callsBefore, callsAfter, List.cons_append, List.nil_append, List.mem_cons,
      Call.configure.injEq, reduceCtorEq, List.not_mem_nil, or_false] at hin
    rcases hin with ⟨-, rfl⟩ | ⟨-, rfl⟩ | ⟨-, rfl⟩ | ⟨-, rfl⟩ <;> exact Or.inl rfl
  have hopened : (((atFirst bare noTime).performAll callsBefore).configure (.of "a")
      reconfigured).2 = none := by
    decide +kernel
  have hpath : absolutePath ((atFirst bare noTime).performAll callsBefore).disk.files
      (.read (.of "d/./new.log")) = .read (.of "/w/d/new.log") := by
    decide +kernel
  have haccepts : reservedKey? warned = none ∧ 10 ≤ warned.level ∧
      levelOf reconfigured.level ≤ warned.level := by decide
  obtain ⟨line, hline⟩ := exists_line
    (by decide +kernel : (recordOf noTime (.of "a") warned).line.toOption.isSome = true)
  obtain ⟨hhandlers, hfiles⟩ := last_configuration_holds bare noTime callsBefore callsAfter
    (.of "a") reconfigured hlast
  obtain ⟨location, content, mode, hplace, hlogged⟩ := hfiles _ rfl hopened hkinds
  have hadded := hlogged noTime warned
  rw [if_pos hopened] at hhandlers
  rw [hpath] at hplace
  rw [hline] at hadded
  simp only [if_pos haccepts] at hadded
  exact ⟨hopened, hhandlers, location, content, mode, line, hplace, hline, hadded⟩

/-- The logger without a name is the root, so configuring the one changes the handlers of the other.
-/
theorem other_name_changes_root :
    let first := (atFirst bare noTime).perform (.configure (.of "root") (toFile (.of "r.log")))
    let second := first.perform (.configure [] {})
    let event : Event := { level := 30, template := .of "x" }
    ([] : Text) ≠ Text.of "root" ∧
      ((atFirst bare noTime).configure (.of "root") (toFile (.of "r.log"))).2 = none ∧
      (first.handlersOf (.of "root")).map Handler.shut =
        (toFile (.of "r.log")).handlers bare ∧
      second.handlersOf (.of "root") = [.silent] ∧
      second.disk.files.readFile (.read (.of "r.log")) = .ok [] ∧
      (second.logAt noTime (.of "root") event).disk.files.readFile (.read (.of "r.log")) =
        .ok [] := by
  decide +kernel

end Service

end Log

end HelpText
