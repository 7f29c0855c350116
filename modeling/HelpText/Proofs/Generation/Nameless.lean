import HelpText.Proofs.Document.Name
import HelpText.Proofs.Generation.Discovery
import HelpText.Proofs.Generation.Variables

/-!
Documents without a name. Main statement: of the files that are discovered exactly those give no
name whose own name holds nothing but hyphens and the extension, and only they declare a variable
that is called `Short`, `Long` or `Examples`.
-/

namespace HelpText

/-- One of the document's variables is called by its suffix alone. -/
def GoSource.DeclaresBare (document : Document) : Prop :=
  ∃ field, GoSource.suffix field ∈
    (GoSource.declarations document).map GoSource.Declaration.name

/-- A variable goes by its suffix alone exactly if the document has no name. -/
theorem GoSource.declaresBare_iff (document : Document) :
    GoSource.DeclaresBare document ↔
      document.name = [] ∧ ∃ field, GoSource.fieldValue document field ≠ [] := by
  have hbare (field field' : Document.Field) :
      GoSource.suffix field = document.name ++ GoSource.suffix field' ↔
        field = field' ∧ [] = document.name :=
    GoSource.append_suffix_inj [] document.name field field'
  simp only [GoSource.DeclaresBare, GoSource.mem_declarations_iff]
  constructor
  · rintro ⟨field, other, hfilled, hname⟩
    exact ⟨((hbare field other).mp hname).2.symm, other, hfilled⟩
  · rintro ⟨hnone, field, hfilled⟩
    exact ⟨field, field, hfilled, (hbare field field).mpr ⟨rfl, hnone.symm⟩⟩

namespace Source

theorem mem_of_discover {fs : FileSystem} {directory path : Path} {extension : Text} {sort : Bool}
    {paths : List Path} (h : discover fs directory extension sort = .ok paths)
    (hpath : path ∈ paths) : extensionOf path.name = extension := by
  rw [discover] at h
  split at h
  · next listing _ =>
    obtain rfl := Except.ok.inj h
    exact ((mem_select extension sort listing path).mp hpath).2
  · cases h

/-- Whatever extension is accepted, a discovered file gives no name exactly if its own name holds
nothing but hyphens and the extension, and exactly then its document declares a variable by the bare
name of a field, if it has any text. -/
theorem discovered_nameless_iff {fs : FileSystem} {source destination : Path}
    {asked : Option Path} {base : Path} {overrides : Settings.Overrides} {settings : Settings}
    (h : Settings.load fs source destination asked base overrides = .ok settings)
    {files : FileSystem} {directory : Path} {sort : Bool} {paths : List Path}
    (hpaths : discover files directory settings.extension sort = .ok paths) :
    ∀ path ∈ paths,
      (Document.deriveName path.name = [] ↔
        Text.WrittenWith ['-'] settings.extension path.name) ∧
      ∀ full content, GoSource.DeclaresBare (Document.parse full path.name content) ↔
        Text.WrittenWith ['-'] settings.extension path.name ∧
          ∃ field, GoSource.fieldValue (Document.parse full path.name content) field ≠ [] := by
  intro path hpath
  obtain ⟨tail, htail⟩ := exists_dot_of_load h
  have hextension := mem_of_discover hpaths hpath
  rw [htail] at hextension ⊢
  have hname := Document.deriveName_eq_nil_iff hextension
  refine ⟨hname, fun full content => ?_⟩
  rw [GoSource.declaresBare_iff, ← hname]
  rfl

/-- A directory with a file that has a name and two that have none. -/
def namelessFiles : FileSystem where
  entries := [([.of "docs"], .directory Entry.newDirectoryMode),
    ([.of "docs", .of ".md"], .file (Utf8.encode (.of "## get\nGet.\n")) Entry.newFileMode),
    ([.of "docs", .of "-.md"], .file [] Entry.newFileMode),
    ([.of "docs", .of "get.md"], .file [] Entry.newFileMode)]
  home := { names := [.of "home"] }

/-- What the settings are where nothing is said about them. -/
def unsaid : Settings where
  source := docs
  destination := docs

def hidden : Path := { names := [.of "docs", .of ".md"] }

def hyphened : Path := { names := [.of "docs", .of "-.md"] }

def named : Path := { names := [.of "docs", .of "get.md"] }

theorem load_namelessFiles :
    Settings.load namelessFiles docs docs none { names := [] } {} = .ok unsaid := by
  decide +kernel

theorem discover_namelessFiles :
    discover namelessFiles docs unsaid.extension false = .ok [hidden, hyphened, named] := by
  decide +kernel

/-- The hidden file that is all extension declares `Short`; the file with letters before its
extension has a name. -/
theorem discovered_nameless_iff_hidden :
    Document.deriveName hidden.name = [] ∧
      GoSource.DeclaresBare (Document.parse false hidden.name (.of "## get\nGet.\n")) ∧
      Document.deriveName named.name ≠ [] := by
  have hall := discovered_nameless_iff load_namelessFiles discover_namelessFiles
  have hwritten : Text.WrittenWith ['-'] unsaid.extension hidden.name :=
    ⟨[.of ".md"], by decide, by decide⟩
  have hletters : ¬Text.WrittenWith ['-'] unsaid.extension named.name := by
    rintro ⟨pieces, hpieces, hparts⟩
    -- No piece holds the `g`.
    have hmem : 'g' ∈ pieces.flatten := by
      rw [hpieces]
      decide
    obtain ⟨piece, hpiece, hg⟩ := List.mem_flatten.mp hmem
    rcases hparts piece hpiece with rfl | rfl
    · exact absurd hg (by decide)
    · exact absurd hg (by decide)
  obtain ⟨hhidden, hbare⟩ := hall hidden (by simp)
  obtain ⟨hnamed, -⟩ := hall named (by simp)
  refine ⟨hhidden.mpr hwritten, ?_, fun hnone => hletters (hnamed.mp hnone)⟩
  exact (hbare false (.of "## get\nGet.\n")).mpr ⟨hwritten, .short, by decide +kernel⟩

/-- Files are discovered, under the extension that settings have by default, that give no name. -/
theorem nameless_discovered :
    Document.deriveName hidden.name = [] ∧ Document.deriveName hyphened.name = [] ∧
      (GoSource.declarations (Document.parse false hidden.name (.of "## get\nGet.\n"))).map
        GoSource.Declaration.name = [.of "Short"] ∧
    ¬∀ (fs : FileSystem) (source destination : Path) (asked : Option Path) (base : Path)
      (overrides : Settings.Overrides) (settings : Settings),
      Settings.load fs source destination asked base overrides = .ok settings →
      ∀ (files : FileSystem) (directory : Path) (sort : Bool) (paths : List Path),
        discover files directory settings.extension sort = .ok paths →
        ∀ path ∈ paths, Document.deriveName path.name ≠ [] := by
  have hhyphened : Document.deriveName hyphened.name = [] := by decide +kernel
  refine ⟨by decide +kernel, hhyphened, by decide +kernel, ?_⟩
  intro hall
  have hnamed := hall _ _ _ _ _ _ _ load_namelessFiles _ _ _ _ discover_namelessFiles
  exact hnamed hyphened (by simp) hhyphened

end Source

end HelpText
