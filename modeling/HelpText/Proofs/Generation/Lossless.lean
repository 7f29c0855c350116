import HelpText.Proofs.Generation.Inputs
import HelpText.Proofs.Text.Encoding

/-!
The bytes that a run reads. Main statement: a file gives a content as a document or as a license
header exactly if its bytes are the encoding of that content. Bytes that encode nothing are refused
as such; no mark is dropped and no line end changed.
-/

namespace HelpText

namespace FileSystem

variable {fs : FileSystem} {path : Path} {bytes : List UInt8}

theorem readText_eq_ok_of_readFile (h : fs.readFile path = .ok bytes) (content : Text) :
    fs.readText path = .ok content ↔ bytes = Utf8.encode content := by
  rw [← Utf8.decode_eq_ok_iff, readText, h]
  dsimp only
  cases Utf8.decode bytes <;> simp [Except.mapError]

/-- A file that is there and gives no text is no encoding of one. -/
theorem readText_eq_error_of_readFile (h : fs.readFile path = .ok bytes) (fault : ReadFault) :
    fs.readText path = .error fault ↔
      ∃ shown, Utf8.decode bytes = .error shown ∧ fault = .encoding shown := by
  rw [readText, h]
  dsimp only
  cases Utf8.decode bytes <;> simp [Except.mapError, eq_comm]

theorem exists_encoding_fault_iff (h : fs.readFile path = .ok bytes) :
    (∃ fault, fs.readText path = .error (.encoding fault)) ↔
      ∀ content, bytes ≠ Utf8.encode content := by
  rw [← Utf8.decode_eq_error_iff]
  simp [readText_eq_error_of_readFile h]

end FileSystem

section Readings

variable {fs : FileSystem} {path : Path} {bytes : List UInt8}

theorem Source.read_eq_encoding_iff (fault : Utf8.Fault) :
    Source.read fs path = .error (.failure (.sourceText path fault)) ↔
      fs.readText path = .error (.encoding fault) := by
  rw [Source.read]
  split
  · next hcontent => simp [hcontent]
  · next shown hshown =>
    rw [hshown, Stop.ofFault]
    split <;> simp
  · next shown hshown => simp [hshown]

theorem License.read_eq_ok_iff (text : Text) :
    License.read fs path = .ok { text, origin := path.text } ↔ fs.readText path = .ok text := by
  rw [License.read]
  split <;> simp_all

theorem License.read_eq_encoding_iff (fault : Utf8.Fault) :
    License.read fs path = .error (.failure (.license path (.encoding fault))) ↔
      fs.readText path = .error (.encoding fault) := by
  rw [License.read]
  split
  · next hcontent => simp [hcontent]
  · next shown hshown =>
    rw [hshown, Stop.ofFault]
    split <;> simp
  · next shown hshown => simp [hshown]

/-- A setting other than the word for no header is the path of a file. -/
theorem License.resolve_eq_read {choice : Text} (hne : choice ≠ [])
    (hword : choice ≠ License.noneWord) (hpath : fs.expandHome (Path.read choice) = .ok path) :
    License.resolve fs (some choice) = License.read fs path := by
  obtain ⟨c, rest, rfl⟩ := List.exists_cons_of_ne_nil hne
  rw [License.resolve_eq, License.asked, if_neg hword]
  · simp only [hpath]
  · simp

/-- A file that can be read gives a content, as a document and as a license header, exactly if its
bytes are the encoding of the content; if they encode nothing both readings fail and say so. -/
theorem readings_iff_encoding (h : fs.readFile path = .ok bytes) :
    (∀ content, Source.read fs path = .ok { path, content } ↔ bytes = Utf8.encode content) ∧
    ((∃ fault, Source.read fs path = .error (.failure (.sourceText path fault))) ↔
      ∀ content, bytes ≠ Utf8.encode content) ∧
    ∀ choice, choice ≠ [] → choice ≠ License.noneWord →
      fs.expandHome (Path.read choice) = .ok path →
      (∀ content, License.resolve fs (some choice) =
          .ok { text := content, origin := path.text } ↔ bytes = Utf8.encode content) ∧
      ((∃ fault, License.resolve fs (some choice) =
          .error (.failure (.license path (.encoding fault)))) ↔
        ∀ content, bytes ≠ Utf8.encode content) := by
  refine ⟨?_, ?_, ?_⟩
  · intro content
    rw [Source.read_eq_ok_iff, FileSystem.readText_eq_ok_of_readFile h]
    exact and_iff_right rfl
  · simp only [Source.read_eq_encoding_iff]
    exact FileSystem.exists_encoding_fault_iff h
  · intro choice hne hword hpath
    rw [License.resolve_eq_read hne hword hpath]
    constructor
    · intro content
      rw [License.read_eq_ok_iff, FileSystem.readText_eq_ok_of_readFile h]
    · simp only [License.read_eq_encoding_iff]
      exact FileSystem.exists_encoding_fault_iff h

/-- A file named `none` in the working directory, with these bytes. -/
def fileNamedNone (bytes : List UInt8) : FileSystem where
  entries := [([License.noneWord], .file bytes Entry.newFileMode)]
  home := { names := [] }

def noneFile : Path := Path.read License.noneWord

/-- A byte order mark and a carriage return are read as they stand, and a surrogate is refused,
here in the file that its path with a leading `./` names. -/
theorem readings_iff_encoding_marks :
    Source.read (fileNamedNone [0xef, 0xbb, 0xbf, 0x0d, 0x0a]) noneFile =
      .ok { path := noneFile, content := ['\ufeff', '\x0d', '\n'] } ∧
    ∃ fault, License.resolve (fileNamedNone [0xed, 0xa0, 0x80]) (some (Text.of "./none")) =
      .error (.failure (.license noneFile (.encoding fault))) := by
  have hmarks : (fileNamedNone [0xef, 0xbb, 0xbf, 0x0d, 0x0a]).readFile noneFile =
      .ok [0xef, 0xbb, 0xbf, 0x0d, 0x0a] := by decide +kernel
  have hsurrogate : (fileNamedNone [0xed, 0xa0, 0x80]).readFile noneFile =
      .ok [0xed, 0xa0, 0x80] := by decide +kernel
  obtain ⟨hread, -, -⟩ := readings_iff_encoding hmarks
  obtain ⟨-, -, hlicense⟩ := readings_iff_encoding hsurrogate
  constructor
  · exact (hread _).mpr (by decide +kernel)
  · obtain ⟨-, hrefused⟩ := hlicense (Text.of "./none") (by decide) (by decide) (by decide +kernel)
    rw [hrefused, ← Utf8.decode_eq_error_iff]
    exact ⟨_, rfl⟩

/-- As a document the file named `none` gives its content; as a license header its name is the word
for no header, whatever the file holds. -/
theorem noneWord_is_no_file :
    (fileNamedNone [0x78]).readFile noneFile = .ok [0x78] ∧
    Source.read (fileNamedNone [0x78]) noneFile = .ok { path := noneFile, content := ['x'] } ∧
    ¬∀ (fs : FileSystem) (path : Path) (bytes : List UInt8), fs.readFile path = .ok bytes →
      ∀ content, (∃ license, License.resolve fs (some path.text) = .ok license ∧
        license.text = content) ↔ bytes = Utf8.encode content := by
  have hfile : (fileNamedNone [0x78]).readFile noneFile = .ok [0x78] := by decide +kernel
  refine ⟨hfile, by decide +kernel, ?_⟩
  intro hall
  have hempty := (hall _ _ _ hfile []).mp ⟨{ text := [], origin := License.noneWord }, rfl, rfl⟩
  cases hempty

end Readings

end HelpText
