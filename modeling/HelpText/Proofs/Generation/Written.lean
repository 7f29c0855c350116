import HelpText.Proofs.FileSystem.NewDirectories
import HelpText.Proofs.Generation.Lossless
import HelpText.Proofs.Generation.Traces

/-!
Writing the generated file. Main statement: the file holds the text and nothing else, an old file
keeps its permission bits and a new one gets those asked for as far as the system has it, and beside
it there are new directories only, where beginnings of the path of its directory lead.
-/

namespace HelpText

namespace Output

open FileSystem (Grows Place SameProcess)

section Writing

variable {fs after made : FileSystem} {directory target shown : Path} {location : Location}
  {place : Place} {name text : Text} {mode : Nat}

theorem prepare_madeWith (fs : FileSystem) (directory : Path) :
    FileSystem.MadeWith directoryMode fs (prepare fs directory).1 directory := by
  rcases prepare_files fs directory with hsame | hmade
  · rw [hsame]
    exact .refl directoryMode fs directory
  · rw [hmade]
    exact FileSystem.makePath_madeWith fs false directoryMode directory

/-- What stood where the file is written stood there before directories were made. -/
theorem entryAt_of_takes (mode : Nat) (hmade : FileSystem.MadeAlong fs made directory)
    (hplace : made.resolve true target = .ok place) (htakes : place.Takes location) :
    fs.entryAt location = none ∧
        bitsAt made.platform mode place = newBits fs.platform mode location ∨
      ∃ old, fs.entryAt location = some (.file old (bitsAt made.platform mode place)) := by
  have hin := FileSystem.isIn_of_resolve hplace
  rcases htakes with rfl | ⟨old, bits, rfl⟩
  · left
    refine ⟨?_, by rw [bitsAt, hmade.platform]⟩
    cases hentry : fs.entryAt location with
    | none => rfl
    | some entry =>
      obtain ⟨other, hother, -⟩ := hmade.grows.stays location entry hentry
      rw [hin.2] at hother
      cases hother
  · right
    refine ⟨old, ?_⟩
    rcases hmade.entries location with hsame | ⟨-, mode, hmode, -⟩
    · exact hsame.symm.trans hin
    · have hfile : made.entryAt location = some (.file old bits) := hin
      rw [hmode] at hfile
      cases hfile

/-- A directory that was made for the generated file: nothing stood there, and a beginning of the
path of the directory leads there. In a tree, on a path without `..`, each beginning that leads
there tells its permission bits, but for the group bit of the directory above it. -/
structure IsNewDirectory (fs after : FileSystem) (directory : Path) (location : Location)
    (bits : Nat) : Prop where
  fresh : fs.entryAt location = none
  stands : after.entryAt location = some (.directory bits)
  leads : ∃ names, names <+: directory.names ∧
    after.resolve true { root := directory.root, names } =
      .ok (.occupied location (.directory bits))
  bits_eq : fs.IsTree → fs.IsFounded fs.working →
    (∀ name ∈ directory.names, Path.Descends name) → ∀ names, names <+: directory.names →
      after.resolve true { root := directory.root, names } =
        .ok (.occupied location (.directory bits)) →
      ∃ above, after.entryAt location.dropLast = some (.directory above) ∧
        bits = (if names = directory.names then directoryMode else Entry.newDirectoryMode) |||
          (above &&& FileSystem.groupBit)

/-- Where nothing was written behind the making of directories, there is one of them, or what was
there before. -/
theorem beside_of_made {other : Location}
    (hmade : FileSystem.MadeWith directoryMode fs made directory) (hgrows : Grows made after)
    (hlinks : FileSystem.AddsNoLink fs after)
    (hother : after.entryAt other = made.entryAt other) :
    after.entryAt other = fs.entryAt other ∨
      ∃ bits, IsNewDirectory fs after directory other bits := by
  rcases hmade.entries other with hsame | ⟨hnone, bits, hbits, hnew⟩
  · exact Or.inl (hother.trans hsame)
  · right
    -- A beginning that led to the directory when it was made leads there still.
    have hstill {names : List Text} (hleads : made.resolve true { root := directory.root, names } =
        .ok (.occupied other (.directory bits))) :
        after.resolve true { root := directory.root, names } =
          .ok (.occupied other (.directory bits)) := by
      obtain ⟨entry, halike, hleads'⟩ := hgrows.resolve_occupied hleads
      rwa [halike.of_directory] at hleads'
    obtain ⟨names, hnames, hleads⟩ := hnew
    refine ⟨bits, hnone, hother.trans hbits, ⟨names, hnames, hstill hleads⟩, ?_⟩
    intro htree hfounded hdown others hothers hleads'
    obtain ⟨first, above, hfirst, hleadsFirst, habove, hmode⟩ :=
      hmade.modes (FileSystem.isFounded_startOf hfounded directory) other bits hnone hbits
    obtain rfl : first = others :=
      FileSystem.beginning_unique htree hlinks hnone hdown hfirst hothers (hstill hleadsFirst)
        hleads'
    obtain ⟨entry, hentry, halike⟩ := hgrows.stays _ _ habove
    rw [halike.of_directory] at hentry
    exact ⟨above, hentry, hmode⟩

/-- Where writing succeeds, the path that is given back leads to a file with just this text. An old
file keeps its permission bits, a new one has those asked for, as far as the system takes them. All
else is as it was, but for new directories on the way. -/
theorem write_exact (h : write fs directory name mode text = (after, .ok target)) :
    target = directory ++ Path.read name ∧ after.readText target = .ok text ∧
      SameProcess fs after ∧
      ∃ location bits,
        after.resolve true target = .ok (.occupied location (.file (Utf8.encode text) bits)) ∧
        (fs.entryAt location = none ∧ bits = newBits fs.platform mode location ∨
          ∃ old, fs.entryAt location = some (.file old bits)) ∧
        ∀ other, other ≠ location → after.entryAt other = fs.entryAt other ∨
          ∃ bits, IsNewDirectory fs after directory other bits := by
  have hlinks : FileSystem.AddsNoLink fs after := by
    have hnone := write_addsNoLink fs directory name mode text
    rwa [h] at hnone
  have hmade := prepare_madeWith fs directory
  rw [write] at h
  split at h
  · next made hprepare =>
    rw [hprepare] at hmade
    obtain ⟨rfl, place, location, hplace, htakes, rfl⟩ := put_of_ok h
    have hold := entryAt_of_takes mode hmade.toMadeAlong hplace htakes
    generalize bitsAt made.platform mode place = bits at hlinks hold ⊢
    have hresolve := FileSystem.resolve_put (Utf8.encode text) bits hplace htakes
    have hgrows : Grows made (made.put location (.file (Utf8.encode text) bits)) :=
      .put_taken (htakes.stands (FileSystem.isIn_of_resolve hplace)).2
    refine ⟨rfl, ?_, hmade.toSameProcess.trans hgrows.toSameProcess, location, bits, hresolve,
      hold, ?_⟩
    · rw [FileSystem.readText_eq_ok_of_readFile]
      rw [FileSystem.readFile, FileSystem.entry?, hresolve]
    · intro other hne
      exact beside_of_made hmade hgrows hlinks (FileSystem.entryAt_put_of_ne hne)
  · cases h

end Writing

section Examples

/-- A directory `real` that hands its group down, and a link `l` to it. -/
def linkedFiles : FileSystem where
  entries := [([.of "real"], .directory 0o2755), ([.of "l"], .link (.of "real"))]
  home := { names := [] }

theorem isTree_linkedFiles : linkedFiles.IsTree := by
  intro location name hnone
  cases location with
  | nil => cases hnone
  | cons first rest => simp [FileSystem.entryAt, linkedFiles, Table.get?]

def behindLink : Path := { names := [.of "l", .of "x", .of "pkg"] }

def behindLinkFile : Path := { names := [.of "l", .of "x", .of "pkg", .of "docs.go"] }

/-- The link is followed, and two directories are made behind it: the one above with the usual
permission bits, and both with the group bit. -/
theorem write_exact_linked :
    ∃ after, write linkedFiles behindLink (.of "docs.go") 0o640 (.of "hi") =
        (after, .ok behindLinkFile) ∧
      after.readText behindLinkFile = .ok (.of "hi") ∧
      (∃ above, IsNewDirectory linkedFiles after behindLink [.of "real", .of "x"] above ∧
        above = 0o2755) ∧
      ∃ last, IsNewDirectory linkedFiles after behindLink [.of "real", .of "x", .of "pkg"] last ∧
        last = 0o2700 := by
  generalize hafter : (write linkedFiles behindLink (.of "docs.go") 0o640 (.of "hi")).1 = after
  have hwrite : write linkedFiles behindLink (.of "docs.go") 0o640 (.of "hi") =
      (after, .ok behindLinkFile) := by
    have hok : (write linkedFiles behindLink (.of "docs.go") 0o640 (.of "hi")).2 =
        .ok behindLinkFile := by decide +kernel
    rw [← hafter, ← hok]
  obtain ⟨-, hread, -, location, bits, hfile, -, hothers⟩ := write_exact hwrite
  have hdown : ∀ name ∈ behindLink.names, Path.Descends name := by decide
  -- A beginning of the path that leads to a place where nothing stood leads to a new directory.
  have hnew (names : List Text) (other : Location) (made above : Nat)
      (hnames : names <+: behindLink.names) (hnone : linkedFiles.entryAt other = none)
      (habove : after.entryAt other.dropLast = some (.directory above))
      (hleads : after.resolve true { names } = .ok (.occupied other (.directory made))) :
      ∃ bits, IsNewDirectory linkedFiles after behindLink other bits ∧
        bits = (if names = behindLink.names then directoryMode else Entry.newDirectoryMode) |||
          (above &&& FileSystem.groupBit) := by
    have hstands : after.entryAt other = some (.directory made) :=
      FileSystem.isIn_of_resolve hleads
    have hne : other ≠ location := by
      rintro rfl
      have hentry : after.entryAt other = some (.file _ bits) := FileSystem.isIn_of_resolve hfile
      rw [hstands] at hentry
      cases hentry
    rcases hothers other hne with hsame | ⟨bits', hdirectory⟩
    · rw [hsame, hnone] at hstands
      cases hstands
    · have hbits := hdirectory.stands
      rw [hstands] at hbits
      obtain rfl : made = bits' := Entry.directory.inj (Option.some.inj hbits)
      obtain ⟨above', habove', hmode⟩ := hdirectory.bits_eq isTree_linkedFiles
        (FileSystem.isFounded_nil _) hdown names hnames hleads
      rw [habove] at habove'
      cases habove'
      exact ⟨made, hdirectory, hmode⟩
  refine ⟨after, hwrite, hread, ?_, ?_⟩
  · exact hnew [.of "l", .of "x"] _ 0o2755 0o2755 (by decide) (by decide)
      (by rw [← hafter]; decide +kernel) (by rw [← hafter]; decide +kernel)
  · exact hnew behindLink.names _ 0o2700 0o2755 (by decide) (by decide)
      (by rw [← hafter]; decide +kernel) (by rw [← hafter]; decide +kernel)

/-- The same files on a system that refuses to change permission bits. -/
def fixedFiles : FileSystem := { linkedFiles with platform := { fixesBits := fun _ => true } }

/-- The permission bits of a new file need not be the number that was asked for: what is above the
lowest twelve bits is not taken, and where the system refuses to change them the file is written all
the same. Nor has a new directory those asked for, where the one above hands its group down. -/
theorem write_inexact :
    (write linkedFiles { names := [.of "out"] } (.of "docs.go") 0o10644 (.of "x")).2 =
        .ok { names := [.of "out", .of "docs.go"] } ∧
      (write linkedFiles { names := [.of "out"] } (.of "docs.go") 0o10644 (.of "x")).1.entryAt
          [.of "out", .of "docs.go"] = some (.file (Utf8.encode (.of "x")) 0o644) ∧
      (write fixedFiles { names := [.of "out"] } (.of "docs.go") 0o600 (.of "x")).2 =
        .ok { names := [.of "out", .of "docs.go"] } ∧
      (write fixedFiles { names := [.of "out"] } (.of "docs.go") 0o600 (.of "x")).1.entryAt
          [.of "out", .of "docs.go"] = some (.file (Utf8.encode (.of "x")) 0o644) ∧
      (write linkedFiles { names := [.of "real", .of "out"] } (.of "docs.go") 0o600
          (.of "x")).1.entryAt [.of "real", .of "out"] = some (.directory 0o2700) := by
  decide +kernel

end Examples

end Output

end HelpText
