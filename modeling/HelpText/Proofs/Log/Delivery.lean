import HelpText.Log.Service
import Mathlib.Logic.Basic

/-!
Where a report goes. No logger has a handler with a file behind its first one, so at most one file
takes a record. Main statements: what a report can do to the files and to the handlers, and that to
a configured logger with a file it does this exactly at the levels of the logger and of the file.
-/

namespace HelpText

namespace Log

/-- The record that an event becomes when it is reported to a logger. -/
def recordOf (time : Binary64) (name : Text) (event : Event) : Record :=
  { event with logger := loggerName name, created := time }

/-- The event becomes a record that the levels of the logger and of the file let through. -/
def RotatingFile.Accepts (file : RotatingFile) (event : Event) : Prop :=
  Service.reservedKey? event = none ∧ configuredLevel ≤ event.level ∧ file.level ≤ event.level

instance (file : RotatingFile) (event : Event) : Decidable (file.Accepts event) :=
  inferInstanceAs (Decidable (_ ∧ _ ∧ _))

namespace Service

/-- The service after an event was reported at some time. -/
def logAt (s : Service) (time : Binary64) (name : Text) (event : Event) : Service :=
  ({ s with clock := time }.log name event).1

/-- No handler but the first of a logger writes to a file. -/
def Tidy (s : Service) : Prop :=
  ∀ name handlers, s.loggers.get? name = some handlers → ∀ file, Handler.file file ∉ handlers.tail

variable {s : Service} {name owner : Text} {file : RotatingFile} {others handlers : List Handler}

theorem owner?_of_configured (h : s.loggers.get? name = some handlers) :
    s.owner? name = some name := by
  have hhead := s.hierarchy.head?_lineage name
  rw [owner?]
  cases hlineage : s.hierarchy.lineage name with
  | nil =>
    rw [hlineage] at hhead
    cases hhead
  | cons first rest =>
    rw [hlineage] at hhead
    obtain rfl : first = name := Option.some.inj hhead
    exact List.find?_cons_of_pos (by simp [h])

theorem showLine_disk (s : Service) (line : Except Fault Text) :
    (s.showLine line).disk = s.disk ∧ (s.showLine line).loggers = s.loggers := by
  cases line with
  | ok line => exact ⟨rfl, rfl⟩
  | error fault => exact ⟨rfl, rfl⟩

/-- Handlers without a file leave the files and themselves as they are. -/
theorem deliverAll_of_no_file (record : Record) (h : ∀ file, Handler.file file ∉ handlers) :
    (s.deliverAll record handlers).1.disk = s.disk ∧
      (s.deliverAll record handlers).1.loggers = s.loggers ∧
      (s.deliverAll record handlers).2 = handlers := by
  induction handlers generalizing s with
  | nil => exact ⟨rfl, rfl, rfl⟩
  | cons handler rest ih =>
    have hrest : ∀ file, Handler.file file ∉ rest :=
      fun file hin => h file (List.mem_cons_of_mem _ hin)
    -- Such a handler shows the record at most.
    have hone : (s.deliver record handler).1.disk = s.disk ∧
        (s.deliver record handler).1.loggers = s.loggers ∧
        (s.deliver record handler).2 = handler := by
      rw [deliver.eq_def]
      split
      · exact ⟨rfl, rfl, rfl⟩
      · cases handler with
        | file file => exact absurd List.mem_cons_self (h file)
        | console =>
          obtain ⟨hdisk, hloggers⟩ := s.showLine_disk record.shortLine
          exact ⟨hdisk, hloggers, rfl⟩
        | silent => exact ⟨rfl, rfl, rfl⟩
    obtain ⟨hdisk, hloggers, hsame⟩ := hone
    obtain ⟨hdisk', hloggers', hsame'⟩ := @ih (s.deliver record handler).1 hrest
    refine ⟨hdisk'.trans hdisk, hloggers'.trans hloggers, ?_⟩
    change (s.deliver record handler).2 ::
      ((s.deliver record handler).1.deliverAll record rest).2 = _
    rw [hsame, hsame']

/-- Of handlers with a file first only that file is written to, from its level on. -/
theorem deliverAll_file (record : Record) (h : ∀ file, Handler.file file ∉ others) :
    (s.deliverAll record (.file file :: others)).1.loggers = s.loggers ∧
      (if file.level ≤ record.level then
        (s.deliverAll record (.file file :: others)).1.disk =
            (file.write s.disk record.line.toOption).1 ∧
          (s.deliverAll record (.file file :: others)).2 =
            .file (file.write s.disk record.line.toOption).2 :: others
      else
        (s.deliverAll record (.file file :: others)).1.disk = s.disk ∧
          (s.deliverAll record (.file file :: others)).2 = .file file :: others) := by
  by_cases hlevel : file.level ≤ record.level
  · have hnot : ¬record.level < (Handler.file file).level := Int.not_lt.mpr hlevel
    have hone : s.deliver record (.file file) =
        ({ s with disk := (file.write s.disk record.line.toOption).1 },
          .file (file.write s.disk record.line.toOption).2) := by
      rw [deliver, if_neg hnot]
    obtain ⟨hdisk, hloggers, hsame⟩ := deliverAll_of_no_file
      (s := { s with disk := (file.write s.disk record.line.toOption).1 }) record h
    rw [if_pos hlevel, deliverAll, hone]
    exact ⟨hloggers, hdisk, congrArg _ hsame⟩
  · have hbelow : record.level < (Handler.file file).level := Int.not_le.mp hlevel
    have hone : s.deliver record (.file file) = (s, .file file) := by
      rw [deliver, if_pos hbelow]
    obtain ⟨hdisk, hloggers, hsame⟩ := deliverAll_of_no_file (s := s) record h
    rw [if_neg hlevel, deliverAll, hone]
    exact ⟨hloggers, hdisk, congrArg _ hsame⟩

/-- What handing a record to a logger with a file does. -/
theorem handOver_file (record : Record) (hget : s.loggers.get? owner = some (.file file :: others))
    (h : ∀ file, Handler.file file ∉ others) :
    if file.level ≤ record.level then
      (s.handOver record (some owner)).disk = (file.write s.disk record.line.toOption).1 ∧
        (s.handOver record (some owner)).loggers =
          s.loggers.put owner (.file (file.write s.disk record.line.toOption).2 :: others)
    else
      (s.handOver record (some owner)).disk = s.disk ∧
        (s.handOver record (some owner)).loggers = s.loggers := by
  obtain ⟨hloggers, hrest⟩ := @deliverAll_file s file others record h
  have hhandlers : ((some owner).bind s.loggers.get?).getD [] = .file file :: others := by
    rw [Option.bind_some, hget, Option.getD_some]
  have hover : s.handOver record (some owner) =
      { (s.deliverAll record (.file file :: others)).1 with
        loggers := (s.deliverAll record (.file file :: others)).1.loggers.put owner
          (s.deliverAll record (.file file :: others)).2 } := by
    rw [handOver.eq_def, hhandlers]
  rw [hover]
  split
  · next hlevel =>
    rw [if_pos hlevel] at hrest
    exact ⟨hrest.1, by rw [hloggers, hrest.2]⟩
  · next hlevel =>
    rw [if_neg hlevel] at hrest
    exact ⟨hrest.1, by rw [hloggers, hrest.2, Table.put_self hget]⟩

/-- Without a file first, no file is written to. -/
theorem handOver_of_no_file (record : Record) (owner : Option Text)
    (h : ∀ name handlers, owner = some name → s.loggers.get? name = some handlers →
      ∀ file, Handler.file file ∉ handlers) :
    (s.handOver record owner).disk = s.disk ∧ (s.handOver record owner).loggers = s.loggers := by
  have hbare : ∀ result, result = (if defaultLevel ≤ record.level then s.showLine record.bareLine
      else s) → result.disk = s.disk ∧ result.loggers = s.loggers := by
    rintro _ rfl
    split
    · exact s.showLine_disk record.bareLine
    · exact ⟨rfl, rfl⟩
  rw [handOver.eq_def]
  cases owner with
  | none => exact hbare _ rfl
  | some owner =>
    cases hget : s.loggers.get? owner with
    | none =>
      rw [Option.bind_some, hget]
      exact hbare _ rfl
    | some handlers =>
      rw [Option.bind_some, hget]
      cases handlers with
      | nil => exact hbare _ rfl
      | cons handler rest =>
        obtain ⟨hdisk, hloggers, hsame⟩ := deliverAll_of_no_file (s := s) record
          (h owner _ rfl hget)
        refine ⟨hdisk, ?_⟩
        change Table.put owner (s.deliverAll record (handler :: rest)).2
          (s.deliverAll record (handler :: rest)).1.loggers = s.loggers
        rw [hsame, hloggers, Table.put_self hget]

/-- The service once it is settled whether a logger takes an event. -/
def asked (s : Service) (time : Binary64) (name : Text) (event : Event) : Service :=
  { s with clock := time }.consult (loggerName name) event.level

/-- An event is handed over if it can be a record and the logger takes its level. -/
theorem logAt_eq (s : Service) (time : Binary64) (name : Text) (event : Event) :
    s.logAt time name event =
      if reservedKey? event = none ∧
          (s.asked time name event).isEnabled (loggerName name) event.level = true then
        (s.asked time name event).handOver (recordOf time name event)
          ((s.asked time name event).owner? (loggerName name))
      else s.asked time name event := by
  rw [logAt, log]
  cases hkey : reservedKey? event with
  | some key => simp [asked]
  | none =>
    simp only [true_and]
    rfl

/-- What reporting to a configured logger with a file does. -/
theorem logAt_file (time : Binary64) (event : Event)
    (hget : s.loggers.get? (loggerName name) = some (.file file :: others))
    (h : ∀ file, Handler.file file ∉ others) :
    if file.Accepts event then
      (s.logAt time name event).disk =
          (file.write s.disk (recordOf time name event).line.toOption).1 ∧
        (s.logAt time name event).loggers = s.loggers.put (loggerName name)
          (.file (file.write s.disk (recordOf time name event).line.toOption).2 :: others)
    else
      (s.logAt time name event).disk = s.disk ∧
        (s.logAt time name event).loggers = s.loggers := by
  have hasked : (s.asked time name event).loggers.get? (loggerName name) =
      some (.file file :: others) := hget
  have henabled : (s.asked time name event).isEnabled (loggerName name) event.level =
      decide (configuredLevel ≤ event.level) := by
    rw [isEnabled, if_pos (by rw [hasked]; rfl)]
  have hover := handOver_file (recordOf time name event) hasked h
  rw [logAt_eq, henabled, owner?_of_configured hasked]
  simp only [decide_eq_true_eq]
  by_cases hrecord : reservedKey? event = none ∧ configuredLevel ≤ event.level
  · rw [if_pos hrecord]
    by_cases hlevel : file.level ≤ event.level
    · rw [if_pos ⟨hrecord.1, hrecord.2, hlevel⟩]
      rw [if_pos (show file.level ≤ (recordOf time name event).level from hlevel)] at hover
      exact hover
    · rw [if_neg fun haccepts => hlevel haccepts.2.2]
      rw [if_neg (show ¬file.level ≤ (recordOf time name event).level from hlevel)] at hover
      exact hover
  · rw [if_neg hrecord, if_neg fun haccepts => hrecord ⟨haccepts.1, haccepts.2.1⟩]
    exact ⟨rfl, rfl⟩

/-- A report writes to the file of the logger that takes it, if that has one, or changes neither a
file nor a handler. -/
theorem logAt_cases (htidy : s.Tidy) (time : Binary64) (name : Text) (event : Event) :
    (s.logAt time name event).disk = s.disk ∧ (s.logAt time name event).loggers = s.loggers ∨
      ∃ owner file others line, s.loggers.get? owner = some (.file file :: others) ∧
        (s.logAt time name event).disk = (file.write s.disk line).1 ∧
        (s.logAt time name event).loggers =
          s.loggers.put owner (.file (file.write s.disk line).2 :: others) := by
  rw [logAt_eq]
  split
  · -- The first handler of the logger that takes the record says whether a file is written to.
    by_cases hfile : ∃ owner file others, (s.asked time name event).owner? (loggerName name) =
        some owner ∧ s.loggers.get? owner = some (.file file :: others)
    · obtain ⟨owner, file, others, howner, hget⟩ := hfile
      have hover := handOver_file (s := s.asked time name event) (recordOf time name event) hget
        (htidy owner _ hget)
      rw [howner]
      split at hover
      · exact Or.inr ⟨owner, file, others, _, hget, hover⟩
      · exact Or.inl hover
    · refine Or.inl (handOver_of_no_file _ _ fun owner handlers howner hget file hin => ?_)
      cases handlers with
      | nil => cases hin
      | cons handler others =>
        rcases List.mem_cons.mp hin with rfl | hin
        · exact hfile ⟨owner, file, others, howner, hget⟩
        · exact htidy owner _ hget file hin
  · exact Or.inl ⟨rfl, rfl⟩

end Service

end Log

end HelpText
