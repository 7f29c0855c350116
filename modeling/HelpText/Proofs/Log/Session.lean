import HelpText.Proofs.FileSystem.Directories
import HelpText.Proofs.Log.Reports

/-!
Loggers that are configured and reported to, over and over. Main statement: a logger has the
handlers of its last configuration, whatever is done to other loggers and whatever is reported.
-/

namespace HelpText

namespace Log

/-- What is done to the loggers: one is configured, or an event is reported to one at some time. -/
inductive Call where
  | configure (name : Text) (configuration : Configuration)
  | log (time : Binary64) (name : Text) (event : Event)

/-- A log file without the stream that appends to it. -/
def RotatingFile.shut (file : RotatingFile) : RotatingFile := { file with stream := none }

def Handler.shut : Handler → Handler
  | .file log => .file log.shut
  | handler => handler

/-- The handlers that a configuration asks for: one for its file, at its level, then one for
standard error if it is verbose, and one that drops all records if there would be none. -/
def Configuration.handlers (configuration : Configuration) (fs : FileSystem) : List Handler :=
  match configuration.file with
  | some path =>
    .file {
      path := Service.absolutePath fs path
      level := levelOf configuration.level
      limit := configuration.limit
      backups := configuration.backups } ::
    if configuration.verbose then [.console] else []
  | none => if configuration.verbose then [.console] else [.silent]

section Files

variable (file : RotatingFile) (o : OpenFiles)

theorem RotatingFile.shut_opened : (file.opened o).2.shut = file.shut := by
  rw [opened]
  split
  · rfl
  · split <;> rfl

theorem RotatingFile.shut_renew (number : Nat) : (file.renew o number).2.1.shut = file.shut := by
  rw [renew]
  split
  · rfl
  · next o' _ => exact shut_opened file.shut o'

theorem RotatingFile.shut_prepare (line : Option Text) :
    (file.prepare o line).2.1.shut = file.shut := by
  have hopened := file.shut_opened o
  rw [prepare]
  split
  · rfl
  · generalize file.opened o = step at hopened ⊢
    obtain ⟨o', file'⟩ := step
    simp only at hopened ⊢
    split
    · exact hopened
    · split
      · exact (file'.shut_renew o' _).trans hopened
      · exact hopened
    · exact hopened

/-- Writing changes nothing about a log file but its stream. -/
theorem RotatingFile.shut_write (line : Option Text) : (file.write o line).2.shut = file.shut := by
  have hprepared := file.shut_prepare o line
  rw [write]
  generalize file.prepare o line = step at hprepared ⊢
  obtain ⟨o', file', _ | _⟩ := step
  · exact hprepared
  · have hopened := file'.shut_opened o'
    simp only
    split <;> exact hopened.trans hprepared

end Files

namespace Service

def perform (s : Service) : Call → Service
  | .configure name configuration => (s.configure name configuration).1
  | .log time name event => s.logAt time name event

def performAll (s : Service) (calls : List Call) : Service := calls.foldl perform s

def handlersOf (s : Service) (name : Text) : List Handler :=
  (s.loggers.get? (loggerName name)).getD []

variable {s : Service} {name other : Text} {configuration : Configuration}

/-- The service that is about to configure a logger: this is in use and has no handlers. -/
def readied (s : Service) (name : Text) : Service :=
  { s with hierarchy := s.hierarchy.enrol (loggerName name), settled := [] }.clear (loggerName name)

theorem readied_files (s : Service) (name : Text) :
    (s.readied name).disk.files = s.disk.files := by
  have hclose (streams : List Nat) (o : OpenFiles) :
      (streams.foldl OpenFiles.close o).files = o.files := by
    induction streams generalizing o with
    | nil => rfl
    | cons number rest ih => exact ih (o.close number)
  exact hclose _ _

/-- The log file that a configuration opens. -/
def opened (configuration : Configuration) (path : Path) (number : Nat) : RotatingFile where
  path := path
  level := levelOf configuration.level
  limit := configuration.limit
  backups := configuration.backups
  stream := some number

/-- What opening the file of a configuration can do: the directories above it are made, and then it
is opened unless something is in the way. -/
theorem openFile_cases (s : Service) (configuration : Configuration) (path : Path) :
    ∃ o : OpenFiles,
      o = s.disk.withFiles (s.disk.files.makePath true Entry.newDirectoryMode path.parent).1 ∧
      ((∃ fault, s.openFile configuration path = ({ s with disk := o }, .error fault)) ∨
        ∃ number disk, o.openAppend (absolutePath s.disk.files path) = .ok (number, disk) ∧
          s.openFile configuration path = ({ s with disk },
            .ok (.file (opened configuration (absolutePath s.disk.files path) number)))) := by
  have hworking : (s.disk.files.makePath true Entry.newDirectoryMode path.parent).1.working =
      s.disk.files.working :=
    (FileSystem.makePath_madeAlong s.disk.files true Entry.newDirectoryMode path.parent).working
  -- The path is made absolute after the directories were made, which does not change where one is.
  refine ⟨_, rfl, ?_⟩
  rw [openFile.eq_def]
  generalize s.disk.files.makePath true Entry.newDirectoryMode path.parent = step at hworking ⊢
  obtain ⟨files, _ | fault⟩ := step
  · change files.working = s.disk.files.working at hworking
    have hpath : absolutePath files path = absolutePath s.disk.files path := by
      rw [absolutePath, absolutePath, hworking]
    simp only [hpath]
    cases (s.disk.withFiles files).openAppend (absolutePath s.disk.files path) with
    | error fault => exact Or.inl ⟨fault, rfl⟩
    | ok result => exact Or.inr ⟨result.1, result.2, rfl, rfl⟩
  · exact Or.inl ⟨fault, rfl⟩

/-- What configuring a logger can do: it gets the handlers without a file, or none since its file
cannot be opened, or those with its file first. -/
theorem configure_cases (s : Service) (name : Text) (configuration : Configuration) :
    (configuration.file = none ∧
      s.configure name configuration = ({ s.readied name with
        loggers := s.loggers.put (loggerName name) (otherHandlers configuration) }, none)) ∨
    ∃ path o, configuration.file = some path ∧
      o = (s.readied name).disk.withFiles
        (s.disk.files.makePath true Entry.newDirectoryMode path.parent).1 ∧
      ((∃ fault, s.configure name configuration = ({ s.readied name with
          disk := o
          loggers := s.loggers.put (loggerName name) [] }, some fault)) ∨
        ∃ number disk, o.openAppend (absolutePath s.disk.files path) = .ok (number, disk) ∧
          s.configure name configuration = ({ s.readied name with
            disk
            loggers := s.loggers.put (loggerName name)
              (.file (opened configuration (absolutePath s.disk.files path) number) ::
                otherHandlers configuration) }, none)) := by
  have hloggers (handlers : List Handler) :
      (s.readied name).loggers.put (loggerName name) handlers =
        s.loggers.put (loggerName name) handlers := Table.put_put _ _ _ _
  cases hfile : configuration.file with
  | none =>
    refine Or.inl ⟨rfl, ?_⟩
    rw [configure.eq_def, hfile, ← hloggers]
    rfl
  | some path =>
    obtain ⟨o, ho, hcases⟩ := openFile_cases (s.readied name) configuration path
    rw [readied_files] at ho hcases
    refine Or.inr ⟨path, o, rfl, ho, ?_⟩
    rcases hcases with ⟨fault, hopen⟩ | ⟨number, disk, hstream, hopen⟩
    · refine Or.inl ⟨fault, ?_⟩
      rw [readied] at hopen
      simp only [configure, hfile, hopen]
      rfl
    · refine Or.inr ⟨number, disk, hstream, ?_⟩
      rw [← hloggers]
      rw [readied] at hopen
      simp only [configure, hfile, hopen, readied]

/-- A configuration changes the handlers of its own logger only. -/
theorem configure_others (s : Service) (configuration : Configuration)
    (h : loggerName other ≠ loggerName name) :
    (s.configure name configuration).1.loggers.get? (loggerName other) =
      s.loggers.get? (loggerName other) := by
  rcases s.configure_cases name configuration with ⟨-, heq⟩ | ⟨path, o, -, -, hcases⟩
  · rw [heq]
    exact (Table.get?_put _ _ _ _).trans (if_neg h)
  · rcases hcases with ⟨fault, heq⟩ | ⟨number, disk, -, heq⟩
    · rw [heq]
      exact (Table.get?_put _ _ _ _).trans (if_neg h)
    · rw [heq]
      exact (Table.get?_put _ _ _ _).trans (if_neg h)

/-- A logger that was configured has the handlers that were asked for, or none if that failed. -/
theorem configure_own (s : Service) (name : Text) (configuration : Configuration) :
    ((s.configure name configuration).1.handlersOf name).map Handler.shut =
      if (s.configure name configuration).2 = none then configuration.handlers s.disk.files
      else [] := by
  have hothers : (otherHandlers configuration).map Handler.shut = otherHandlers configuration := by
    rw [otherHandlers]
    split
    · rfl
    · split <;> rfl
  rcases s.configure_cases name configuration with ⟨hfile, heq⟩ | ⟨path, o, hfile, -, hcases⟩
  · rw [heq, handlersOf, Configuration.handlers, hfile]
    simp only [Table.get?_put, ↓reduceIte, Option.getD_some, hothers]
    rw [otherHandlers, hfile]
    rfl
  · rcases hcases with ⟨fault, heq⟩ | ⟨number, disk, -, heq⟩
    · rw [heq, handlersOf]
      simp only [Table.get?_put, ↓reduceIte, Option.getD_some]
      rfl
    · rw [heq, handlersOf, Configuration.handlers, hfile]
      simp only [Table.get?_put, ↓reduceIte, Option.getD_some, List.map_cons, hothers]
      rw [otherHandlers, hfile]
      rfl

section Runs

theorem tidy_put {handlers : List Handler} (htidy : s.Tidy)
    (h : ∀ file, Handler.file file ∉ handlers.tail) {t : Service}
    (hloggers : t.loggers = s.loggers.put name handlers) : t.Tidy := by
  intro other found hget
  rw [hloggers, Table.get?_put] at hget
  split at hget
  · cases hget
    exact h
  · exact htidy other found hget

theorem Tidy.perform (htidy : s.Tidy) (call : Call) : (s.perform call).Tidy := by
  cases call with
  | configure name configuration =>
    change (s.configure name configuration).1.Tidy
    have hothers := not_file_of_otherHandlers configuration
    rcases s.configure_cases name configuration with ⟨-, heq⟩ | ⟨path, o, -, -, hcases⟩
    · rw [heq]
      refine tidy_put htidy (fun file hin => hothers file (List.mem_of_mem_tail hin)) rfl
    · rcases hcases with ⟨fault, heq⟩ | ⟨number, disk, -, heq⟩
      · rw [heq]
        exact tidy_put htidy (fun file hin => by cases hin) rfl
      · have hfiles : ∀ file, Handler.file file ∉
            (.file (opened configuration (absolutePath s.disk.files path) number) ::
              otherHandlers configuration : List Handler).tail := hothers
        rw [heq]
        exact tidy_put htidy hfiles rfl
  | log time name event =>
    rcases logAt_cases htidy time name event with
      ⟨-, hloggers⟩ | ⟨owner, file, others, line, hget, -, hloggers⟩
    · intro other found hget
      exact htidy other found (hloggers ▸ hget)
    -- Reporting can change the file of the first handler only.
    · have hothers : ∀ other, Handler.file other ∉ others := htidy owner _ hget
      have hfiles : ∀ other, Handler.file other ∉
          (.file (file.write s.disk line).2 :: others : List Handler).tail := hothers
      exact tidy_put htidy hfiles hloggers

/-- What is done to other loggers, and any report, leaves the handlers of a logger but for their
streams. -/
theorem perform_keeps (htidy : s.Tidy) {call : Call}
    (h : ∀ other configuration, call = .configure other configuration →
      loggerName other ≠ loggerName name) :
    ((s.perform call).handlersOf name).map Handler.shut =
      (s.handlersOf name).map Handler.shut := by
  cases call with
  | configure other configuration =>
    have hother := h other configuration rfl
    change ((s.configure other configuration).1.handlersOf name).map _ = _
    rw [handlersOf, s.configure_others configuration hother.symm, handlersOf]
  | log time other event =>
    change ((s.logAt time other event).handlersOf name).map _ = _
    rw [handlersOf, handlersOf]
    rcases logAt_cases htidy time other event with
      ⟨-, hloggers⟩ | ⟨owner, file, others, line, hget, -, hloggers⟩
    · rw [hloggers]
    -- The file may be that of this logger; but for the stream it stays the same.
    · rw [hloggers, Table.get?_put]
      split
      · next howner =>
        rw [howner, hget]
        simp only [Option.getD_some, List.map_cons, Handler.shut, file.shut_write]
      · rfl

theorem Tidy.performAll (htidy : s.Tidy) (calls : List Call) : (s.performAll calls).Tidy := by
  induction calls generalizing s with
  | nil => exact htidy
  | cons call rest ih => exact ih (htidy.perform call)

theorem performAll_keeps (htidy : s.Tidy) {calls : List Call}
    (h : ∀ other configuration, Call.configure other configuration ∈ calls →
      loggerName other ≠ loggerName name) :
    ((s.performAll calls).handlersOf name).map Handler.shut =
      (s.handlersOf name).map Handler.shut := by
  induction calls generalizing s with
  | nil => rfl
  | cons call rest ih =>
    have hrest := ih (htidy.perform call) fun other configuration hin =>
      h other configuration (List.mem_cons_of_mem _ hin)
    have hfirst : ((s.perform call).handlersOf name).map Handler.shut = _ :=
      perform_keeps htidy fun other configuration heq =>
        h other configuration (heq ▸ List.mem_cons_self)
    exact hrest.trans hfirst

/-- A logger has the handlers of its last configuration, or none if that failed. -/
theorem handlersOf_performAll (htidy : s.Tidy) (name : Text) (configuration : Configuration)
    {after : List Call} (h : ∀ other configuration, Call.configure other configuration ∈ after →
      loggerName other ≠ loggerName name) :
    ((s.performAll (.configure name configuration :: after)).handlersOf name).map Handler.shut =
      if (s.configure name configuration).2 = none then configuration.handlers s.disk.files
      else [] :=
  (performAll_keeps (htidy.perform _) h).trans (s.configure_own name configuration)

end Runs

end Service

end Log

end HelpText
