import HelpText.Output
import HelpText.Proofs.FileSystem.Faults
import HelpText.Proofs.FileSystem.Writing

/-!
Writing the generated file. Main statements: which faults of a path no stage foresees, and that
otherwise the file is written as a whole, with the permission bits that it had or is to have, or the
refusal is reported.
-/

namespace HelpText

open FileSystem (Fault Place)

namespace Output

/-- The file system in which the generated file is opened: the directory is made if it is not there
and can be made. -/
def prepared (fs : FileSystem) (directory : Path) : FileSystem :=
  match fs.pathExists directory with
  | .ok true => fs
  | _ => (fs.makePath false directoryMode directory).1

/-- The path, or a name on its way, is longer than the system allows. -/
def TooLong (fs : FileSystem) (path : Path) : Prop :=
  fs.resolve true path = .error (.system .nameTooLong path.text)

/-- What no stage foresees: a NUL in a path, or a path whose existence the system does not tell. -/
inductive Blocked (fs : FileSystem) (directory target : Path) : Fault → Prop
  | directoryNull (h : '\x00' ∈ directory.text) : Blocked fs directory target .nullByte
  | directoryLong (h : TooLong fs directory) :
      Blocked fs directory target (.system .nameTooLong directory.text)
  | targetNull (hnull : '\x00' ∉ directory.text) (hlong : ¬TooLong fs directory)
      (h : '\x00' ∈ target.text) : Blocked fs directory target .nullByte
  | targetLong (hnull : '\x00' ∉ directory.text) (hlong : ¬TooLong fs directory)
      (h : TooLong (prepared fs directory) target) :
      Blocked fs directory target (.system .nameTooLong target.text)

theorem pathExists_of_tooLong {fs : FileSystem} {path : Path} (h : TooLong fs path) :
    fs.pathExists path = .error (.system .nameTooLong path.text) :=
  (FileSystem.test_eq_error_iff _ _ _ _).mpr ⟨h, rfl⟩

theorem pathExists_of_not_tooLong {fs : FileSystem} {path : Path} (h : ¬TooLong fs path) :
    ∃ stands, fs.pathExists path = .ok stands := by
  cases hexists : fs.pathExists path with
  | ok stands => exact ⟨stands, rfl⟩
  | error fault =>
    obtain ⟨hresolve, rfl⟩ := (FileSystem.test_eq_error_iff _ _ _ _).mp hexists
    exact absurd hresolve h

theorem prepare_of_null {fs : FileSystem} {directory : Path} (h : '\x00' ∈ directory.text) :
    prepare fs directory = (fs, .error (.interruption (.path .nullByte))) := by
  rw [prepare, FileSystem.pathExists_of_null h]
  simp only [(FileSystem.makePath_fault fs false directoryMode directory).1 h]
  rfl

theorem prepare_of_tooLong {fs : FileSystem} {directory : Path} (h : TooLong fs directory) :
    prepare fs directory =
      (fs, .error (.interruption (.path (.system .nameTooLong directory.text)))) := by
  rw [prepare, pathExists_of_tooLong h]

/-- Any other trouble with the directory is left to the opening of the file. -/
theorem prepare_eq_ok {fs : FileSystem} {directory : Path} (hnull : '\x00' ∉ directory.text)
    (hlong : ¬TooLong fs directory) : prepare fs directory = (prepared fs directory, .ok ()) := by
  obtain ⟨stands, hexists⟩ := pathExists_of_not_tooLong hlong
  rw [prepare, prepared, hexists]
  cases stands with
  | true => rfl
  | false =>
    -- A refusal is passed over here and shows again when the file is opened.
    have hfault := (FileSystem.makePath_fault fs false directoryMode directory).2 hnull
    rcases hmake : fs.makePath false directoryMode directory with ⟨made, _ | fault⟩
    · rfl
    · have hrefusal := hfault fault (by rw [hmake])
      simp only [hrefusal, ↓reduceIte]

theorem put_of_null {fs : FileSystem} {target : Path} (mode : Nat) (text : Text)
    (h : '\x00' ∈ target.text) :
    put fs target mode text = (fs, .error (.interruption (.path .nullByte))) := by
  have hwrite : fs.writeFile target (Utf8.encode text) = .error .nullByte := by
    rw [FileSystem.writeFile, (FileSystem.resolve_eq_nullByte_iff fs true target).mpr h]
  rw [put, FileSystem.pathExists_of_null h]
  simp only [hwrite]
  rfl

theorem put_of_tooLong {fs : FileSystem} {target : Path} (mode : Nat) (text : Text)
    (h : TooLong fs target) :
    put fs target mode text =
      (fs, .error (.interruption (.path (.system .nameTooLong target.text)))) := by
  rw [put, pathExists_of_tooLong h]

theorem put_eq_error {fs : FileSystem} {target : Path} (mode : Nat) {text : Text} {fault : Fault}
    (hnull : '\x00' ∉ target.text) (hlong : ¬TooLong fs target)
    (h : fs.writeFile target (Utf8.encode text) = .error fault) :
    put fs target mode text = (fs, .error (.failure (.output target fault))) := by
  obtain ⟨stands, hexists⟩ := pathExists_of_not_tooLong hlong
  have hrefusal := (FileSystem.isRefusal_of_writeFile h).mpr hnull
  rw [put, hexists]
  simp only [h, Stop.ofFault, hrefusal, ↓reduceIte]

/-- The permission bits of a new file for which `mode` was asked: the lowest twelve bits of that, or
those that new files are made with where the system refuses to change them. -/
def newBits (platform : Platform) (mode : Nat) (location : Location) : Nat :=
  if platform.fixesBits location then Entry.newFileMode else FileSystem.maskBits mode

/-- The permission bits of the file that is written at a place: an old file keeps its own. -/
def bitsAt (platform : Platform) (mode : Nat) : Place → Nat
  | .occupied _ (.file _ old) => old
  | .occupied location _ | .free location _ => newBits platform mode location

/-- Once the file is open, nothing fails any more: that its permission bits cannot be changed is
passed over. -/
theorem put_eq_of_takes {fs : FileSystem} {target : Path} {place : Place} {location : Location}
    (mode : Nat) (text : Text) (hplace : fs.resolve true target = .ok place)
    (htakes : place.Takes location) :
    put fs target mode text =
      (fs.put location (.file (Utf8.encode text) (bitsAt fs.platform mode place)), .ok target) := by
  rcases htakes with rfl | ⟨old, bits, rfl⟩
  · have hexists : fs.pathExists target = .ok false := by
      rw [FileSystem.pathExists, FileSystem.test, FileSystem.entry?, hplace]
      rfl
    have hset := FileSystem.setMode_put (Utf8.encode text) Entry.newFileMode mode hplace
      (Or.inl rfl)
    rw [put, hexists]
    simp only [FileSystem.writeFile, hplace, hset, bitsAt, newBits, Bool.false_eq_true, ↓reduceIte]
    cases hfixed : fs.platform.fixesBits location with
    | true => rfl
    | false => rfl
  · have hexists : fs.pathExists target = .ok true := by
      rw [FileSystem.pathExists, FileSystem.test, FileSystem.entry?, hplace]
    rw [put, hexists]
    simp only [FileSystem.writeFile, hplace, bitsAt, ↓reduceIte]

/-- Writing fails before anything is changed, for want of the file or on its path, or it is done. -/
theorem put_cases (fs : FileSystem) (target : Path) (mode : Nat) (text : Text) :
    (∃ stop, put fs target mode text = (fs, .error stop) ∧
      ∀ failure, stop = .failure failure → ∃ fault, failure = .output target fault) ∨
    ∃ place location, fs.resolve true target = .ok place ∧ place.Takes location ∧
      put fs target mode text =
        (fs.put location (.file (Utf8.encode text) (bitsAt fs.platform mode place)),
          .ok target) := by
  cases hwrite : fs.writeFile target (Utf8.encode text) with
  | error fault =>
    left
    rw [put]
    split
    · exact ⟨_, rfl, nofun⟩
    · simp only [hwrite]
      refine ⟨_, rfl, fun failure hfailure => ⟨fault, ?_⟩⟩
      rw [Stop.ofFault] at hfailure
      split at hfailure <;> cases hfailure
      rfl
  | ok written =>
    obtain ⟨place, location, -, hplace, htakes, -⟩ := FileSystem.writeFile_eq_ok hwrite
    exact Or.inr ⟨place, location, hplace, htakes, put_eq_of_takes mode text hplace htakes⟩

theorem put_eq_ok {fs written : FileSystem} {target : Path} (mode : Nat) {text : Text}
    (h : fs.writeFile target (Utf8.encode text) = .ok written) :
    ∃ finished, put fs target mode text = (finished, .ok target) ∧
      finished.readFile target = .ok (Utf8.encode text) := by
  obtain ⟨place, location, -, hplace, htakes, -⟩ := FileSystem.writeFile_eq_ok h
  refine ⟨_, put_eq_of_takes mode text hplace htakes, ?_⟩
  rw [FileSystem.readFile, FileSystem.entry?, FileSystem.resolve_put _ _ hplace htakes]

theorem write_eq_put {fs : FileSystem} {directory : Path} (name : Text) (mode : Nat) (text : Text)
    (hnull : '\x00' ∉ directory.text) (hlong : ¬TooLong fs directory) :
    write fs directory name mode text =
      put (prepared fs directory) (directory ++ Path.read name) mode text := by
  rw [write, prepare_eq_ok hnull hlong]

theorem write_of_blocked {fs : FileSystem} {directory : Path} {name : Text} (mode : Nat)
    (text : Text) {fault : Fault} (h : Blocked fs directory (directory ++ Path.read name) fault) :
    (write fs directory name mode text).2 = .error (.interruption (.path fault)) := by
  cases h with
  | directoryNull h => rw [write, prepare_of_null h]
  | directoryLong h => rw [write, prepare_of_tooLong h]
  | targetNull hnull hlong h => rw [write_eq_put name mode text hnull hlong, put_of_null _ _ h]
  | targetLong hnull hlong h =>
    rw [write_eq_put name mode text hnull hlong, put_of_tooLong _ _ h]

/-- Where nothing blocks the paths, all depends on whether the file can be opened. -/
theorem write_of_not_blocked {fs : FileSystem} {directory : Path} {name : Text} (mode : Nat)
    {text : Text} (h : ∀ fault, ¬Blocked fs directory (directory ++ Path.read name) fault) :
    (∀ fault,
      (prepared fs directory).writeFile (directory ++ Path.read name) (Utf8.encode text) =
          .error fault →
        write fs directory name mode text = (prepared fs directory,
          .error (.failure (.output (directory ++ Path.read name) fault)))) ∧
    ∀ written,
      (prepared fs directory).writeFile (directory ++ Path.read name) (Utf8.encode text) =
          .ok written →
        ∃ finished,
          write fs directory name mode text = (finished, .ok (directory ++ Path.read name)) ∧
          finished.readFile (directory ++ Path.read name) = .ok (Utf8.encode text) := by
  have hnull : '\x00' ∉ directory.text := fun hin => h _ (.directoryNull hin)
  have hlong : ¬TooLong fs directory := fun hin => h _ (.directoryLong hin)
  have htarget : '\x00' ∉ (directory ++ Path.read name).text :=
    fun hin => h _ (.targetNull hnull hlong hin)
  have htargetLong : ¬TooLong (prepared fs directory) (directory ++ Path.read name) :=
    fun hin => h _ (.targetLong hnull hlong hin)
  rw [write_eq_put name mode text hnull hlong]
  exact ⟨fun fault hfault => put_eq_error mode htarget htargetLong hfault,
    fun written hwritten => put_eq_ok mode hwritten⟩

end Output

end HelpText
