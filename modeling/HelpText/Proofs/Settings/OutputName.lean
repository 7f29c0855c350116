import HelpText.Proofs.FileSystem.PathText
import HelpText.Proofs.FileSystem.Trails
import HelpText.Proofs.Settings.Precedence

/-!
The name of the generated file. Main statement: a name that was accepted is the bare name of a file,
and its path an entry of whatever directory it is put in, exactly if it is not the word for the
directory above.
-/

namespace HelpText

open FileSystem (Place)

/-- No blank stands at either end. -/
def Text.Unpadded (t : Text) : Prop :=
  ∀ c, t.head? = some c ∨ t.getLast? = some c → Text.isBlankChar c = false

theorem Text.unpadded_trim (t : Text) : Text.Unpadded (Text.trim t) := by
  rintro c (h | h)
  · exact head?_trimBoth h
  · exact getLast?_trimBoth h

namespace Settings

/-- The bare name of a file. -/
structure IsFileName (name : Text) : Prop where
  ne_nil : name ≠ []
  unpadded : Text.Unpadded name
  no_slash : '/' ∉ name
  ne_here : name ≠ ['.']
  ne_above : name ≠ ['.', '.']

/-- Behind the path of a directory the name leads to the entry of this name, a link not followed. -/
structure StandsInside (name : Text) : Prop where
  path : ∀ directory : Path,
    directory ++ Path.read name = { directory with names := directory.names ++ [name] }
  place : ∀ (fs : FileSystem) (directory : Path) (location : Location) (mode : Nat)
    (place : Place), fs.resolve true directory = .ok (.occupied location (.directory mode)) →
    fs.resolve false (directory ++ Path.read name) = .ok place →
    place.location = location ++ [name]

section Names

variable {name : Text}

theorem append_read_of_bare (hslash : '/' ∉ name) (hname : Path.isName name = true)
    (directory : Path) :
    directory ++ Path.read name = { directory with names := directory.names ++ [name] } := by
  rw [Path.read_of_bare hslash hname]
  rfl

theorem IsFileName.standsInside (h : IsFileName name) : StandsInside name := by
  have hname : Path.isName name = true := (Path.isName_iff name).mpr ⟨h.ne_nil, h.ne_here⟩
  have hpath := append_read_of_bare h.no_slash hname
  refine ⟨hpath, ?_⟩
  intro fs directory location mode place hdirectory htarget
  rw [hpath] at htarget
  exact FileSystem.location_of_entry hdirectory hname h.ne_above (Or.inl rfl) htarget

/-- The check looks at the trimmed name alone. It lets through what is one piece of a path. -/
theorem checkOutputName_eq_ok_iff_bare {value : Text} :
    checkOutputName value = .ok name ↔
      name = Text.trim value ∧ name ≠ [] ∧ '/' ∉ name ∧ name ≠ ['.'] := by
  rw [checkOutputName_eq_ok_iff]
  constructor
  · rintro ⟨⟨hne, hself⟩, rfl⟩
    exact ⟨rfl, hne, (Path.name_read_eq_self_iff hne).mp hself⟩
  · rintro ⟨rfl, hne, hbare⟩
    exact ⟨⟨hne, (Path.name_read_eq_self_iff hne).mpr hbare⟩, rfl⟩

end Names

/-- An accepted name is not empty, has no blanks around it, no slash in it and is not the word for
the directory itself. So it is the bare name of a file, an entry of whatever directory it is put in,
exactly if it is not the word for the directory above. -/
theorem load_outputName_iff {fs : FileSystem} {source destination : Path} {asked : Option Path}
    {base : Path} {overrides : Overrides} {settings : Settings}
    (h : load fs source destination asked base overrides = .ok settings) :
    (settings.outputName ≠ [] ∧ settings.outputName.Unpadded ∧ '/' ∉ settings.outputName ∧
      settings.outputName ≠ ['.']) ∧
    (IsFileName settings.outputName ∧ StandsInside settings.outputName ↔
      settings.outputName ≠ ['.', '.']) := by
  obtain ⟨merged, license, hchecked⟩ := checked_of_load h
  obtain ⟨htrim, hne, hslash, hhere⟩ := checkOutputName_eq_ok_iff_bare.mp hchecked.outputName
  have hunpadded : Text.Unpadded settings.outputName := by
    rw [htrim]
    exact Text.unpadded_trim _
  refine ⟨⟨hne, hunpadded, hslash, hhere⟩, ?_⟩
  constructor
  · rintro ⟨hfile, -⟩
    exact hfile.ne_above
  · intro habove
    have hfile : IsFileName settings.outputName := ⟨hne, hunpadded, hslash, hhere, habove⟩
    exact ⟨hfile, hfile.standsInside⟩

section Examples

/-- What is loaded if the invocation gives this name for the generated file and nothing else. -/
def loadNamed (name : Text) : Except Stop Settings :=
  load { home := { names := [] } } { names := [.of "docs"] } { names := [.of "out"] } none
    { names := [] } { outputName := some name }

def namedSettings (name : Text) : Settings where
  source := { names := [.of "docs"] }
  destination := { names := [.of "out"] }
  outputName := name

theorem load_outputName_iff_padded :
    loadNamed (.of " api docs.go ") = .ok (namedSettings (.of "api docs.go")) ∧
      IsFileName (.of "api docs.go") ∧ StandsInside (.of "api docs.go") := by
  have hload : loadNamed (.of " api docs.go ") = .ok (namedSettings (.of "api docs.go")) := by
    decide +kernel
  obtain ⟨-, hiff⟩ := load_outputName_iff hload
  exact ⟨hload, hiff.mpr (by decide)⟩

/-- A directory with nothing in it. -/
def emptyDirectory : FileSystem where
  entries := [([.of "out"], .directory Entry.newDirectoryMode)]
  home := { names := [] }

/-- The word for the directory above is accepted, and leads out of the directory it is put in. -/
theorem accepts_directory_above :
    loadNamed (.of "..") = .ok (namedSettings (.of "..")) ∧ ¬StandsInside (.of "..") ∧
    ¬∀ (fs : FileSystem) (source destination : Path) (asked : Option Path) (base : Path)
      (overrides : Overrides) (settings : Settings),
      load fs source destination asked base overrides = .ok settings →
      IsFileName settings.outputName := by
  have hload : loadNamed (.of "..") = .ok (namedSettings (.of "..")) := by decide +kernel
  refine ⟨hload, ?_, ?_⟩
  · intro h
    have hdirectory : emptyDirectory.resolve true { names := [.of "out"] } =
        .ok (.occupied [.of "out"] (.directory Entry.newDirectoryMode)) := by decide +kernel
    have htarget : emptyDirectory.resolve false ({ names := [.of "out"] } ++ Path.read (.of "..")) =
        .ok (.occupied [] (.directory Entry.newDirectoryMode)) := by decide +kernel
    exact absurd (h.place _ _ _ _ _ hdirectory htarget) (by decide)
  · intro hall
    exact (hall _ _ _ _ _ _ _ hload).ne_above rfl

end Examples

end Settings

end HelpText
