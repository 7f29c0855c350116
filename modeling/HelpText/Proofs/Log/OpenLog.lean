import HelpText.Log.RotatingFile
import HelpText.Proofs.FileSystem.Growth

/-!
Log files that lead to a file. Main statements: what writing a line does where the stream is open,
that a closed stream is opened first, and that opening a file attaches a new stream to what the path
leads to from then on.
-/

namespace HelpText

namespace OpenFiles

open FileSystem (Grows)

variable {o : OpenFiles} {path : Path} {number : Nat}

/-- What opening a file does: a stream is added behind the others, and attached to the file that the
path leads to now. -/
theorem openAppend_eq_ok {disk : OpenFiles} (h : o.openAppend path = .ok (number, disk)) :
    ∃ location content mode, number = o.streams.length ∧ Grows o.files disk.files ∧
      disk.streams = o.streams ++ [.attached location] ∧
      disk.files.resolve true path = .ok (.occupied location (.file content mode)) := by
  rw [openAppend] at h
  split at h
  · next location content mode hplace =>
    cases h
    exact ⟨location, content, mode, rfl, .refl _, rfl, hplace⟩
  · cases h
  · cases h
  · next location hplace =>
    cases h
    have hfree := (FileSystem.isIn_of_resolve hplace).2
    exact ⟨location, [], Entry.newFileMode, rfl, .put_free hfree, rfl,
      FileSystem.resolve_put [] Entry.newFileMode hplace (Or.inl rfl)⟩
  · cases h

theorem openAppend_of_file {location : Location} {content : List UInt8} {mode : Nat}
    (h : o.files.resolve true path = .ok (.occupied location (.file content mode))) :
    o.openAppend path =
      .ok (o.streams.length, { o with streams := o.streams ++ [.attached location] }) := by
  rw [openAppend, h]

theorem stream_append_old {stream : Stream} (h : number < o.streams.length) :
    ({ o with streams := o.streams ++ [stream] } : OpenFiles).stream number = o.stream number := by
  simp [OpenFiles.stream, List.getD_eq_getElem?_getD, List.getElem?_append_left h]

theorem stream_append_new (o : OpenFiles) (stream : Stream) :
    ({ o with streams := o.streams ++ [stream] } : OpenFiles).stream o.streams.length = stream := by
  simp [OpenFiles.stream, List.getD_eq_getElem?_getD]

theorem lt_length_of_attached {location : Location} (h : o.stream number = .attached location) :
    number < o.streams.length := by
  by_contra hnot
  rw [OpenFiles.stream, List.getD_eq_getElem?_getD,
    List.getElem?_eq_none (Nat.not_lt.mp hnot)] at h
  cases h

theorem stream_close {other : Nat} (h : other ≠ number) :
    (o.close number).stream other = o.stream other := by
  simp [OpenFiles.stream, close, List.getD_eq_getElem?_getD, List.getElem?_set_ne h.symm]

theorem append_attached {location : Location} {content new : List UInt8} {mode : Nat}
    (h : o.stream number = .attached location)
    (hfile : o.files.entryAt location = some (.file content mode)) :
    o.append number new =
      { o with files := o.files.put location (.file (content ++ new) mode) } := by
  rw [append, h]
  simp only [FileSystem.appendAt, hfile]

end OpenFiles

namespace Log

namespace RotatingFile

variable {file file' : RotatingFile} {o o' : OpenFiles} {number : Nat} {location : Location}
  {content : List UInt8} {mode : Nat}

/-- The bytes of a line in a log file. -/
def lineBytes (line : Text) : List UInt8 := Utf8.encode (line ++ ['\n'])

theorem isIrregular_of_file
    (h : o.files.resolve true file.path = .ok (.occupied location (.file content mode))) :
    file.isIrregular o = false := by
  have hfile : o.files.leadsTo FileSystem.isFile file.path = true := by
    rw [FileSystem.leadsTo, FileSystem.entry?, h]
    rfl
  rw [isIrregular, hfile]
  exact Bool.and_false _

theorem opened_of_open (h : file.stream = some number) : file.opened o = (o, file) := by
  rw [opened, h]

theorem prepare_of_open (hregular : file.isIrregular o = false)
    (hstream : file.stream = some number) (line : Option Text) :
    file.prepare o line = match line with
      | some line =>
        if file.isFull o number line.length then file.renew o number else (o, file, true)
      | none => (o, file, file.limit = 0) := by
  rw [prepare, hregular, opened_of_open hstream]
  cases line <;> simp [hstream]

/-- A line that cannot be written changes nothing. -/
theorem write_none (hregular : file.isIrregular o = false) (hstream : file.stream = some number) :
    file.write o none = (o, file) := by
  rw [write, prepare_of_open hregular hstream]
  cases hlimit : decide (file.limit = 0) with
  | false => rfl
  | true =>
    simp only [opened_of_open hstream]
    split
    · next heq => cases heq
    · rfl

/-- As long as there is room a line is written behind the others. -/
theorem write_room {line : Text} (hregular : file.isIrregular o = false)
    (hstream : file.stream = some number) (hroom : file.isFull o number line.length = false) :
    file.write o (some line) = (o.append number (lineBytes line), file) := by
  have hprepared : file.prepare o (some line) = (o, file, true) := by
    rw [prepare_of_open hregular hstream]
    simp only [hroom, Bool.false_eq_true, if_false]
  rw [write, hprepared]
  simp only [opened_of_open hstream, hstream]
  rfl

/-- In a full file a line is written once the file is renewed, if that goes through. -/
theorem write_full {line : Text} (hregular : file.isIrregular o = false)
    (hstream : file.stream = some number) (hfull : file.isFull o number line.length = true) :
    file.prepare o (some line) = file.renew o number ∧
    ∀ renewed : OpenFiles × RotatingFile × Bool, file.renew o number = renewed →
      (renewed.2.2 = false → file.write o (some line) = (renewed.1, renewed.2.1)) ∧
      (renewed.2.2 = true → ∀ next, renewed.2.1.stream = some next →
        file.write o (some line) = (renewed.1.append next (lineBytes line), renewed.2.1)) := by
  have hprepared : file.prepare o (some line) = file.renew o number := by
    rw [prepare_of_open hregular hstream]
    simp only [hfull, if_true]
  refine ⟨hprepared, ?_⟩
  rintro ⟨o', file', went⟩ hrenewed
  rw [write, hprepared, hrenewed]
  constructor
  · rintro rfl
    rfl
  · rintro rfl next hnext
    have hstream' : file'.stream = some next := hnext
    simp only [opened_of_open hstream', hstream']
    rfl

/-- A stream that is closed is opened before anything is written. -/
theorem prepare_opened (hregular : file.isIrregular o = false)
    (hopened : file.opened o = (o', file'))
    (hregular' : file'.isIrregular o' = false) (hstream : file'.stream = some number)
    (line : Option Text) :
    file.prepare o line = file'.prepare o' line ∧ file.write o line = file'.write o' line := by
  have hprepared : file.prepare o line = file'.prepare o' line := by
    rw [prepare, hregular, hopened, prepare, hregular', opened_of_open hstream]
    simp only [Bool.false_eq_true, if_false]
  exact ⟨hprepared, by rw [write, hprepared, write]⟩

end RotatingFile

end Log

end HelpText
