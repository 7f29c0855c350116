import HelpText.Proofs.Document.Extension
import HelpText.Proofs.Generation.Selection
import HelpText.Proofs.Settings.Loading

/-!
Which files are discovered. An extension that was accepted begins with a dot. Main statement: the
files that are discovered are those whose names end in the extension if it has no further dot; if it
has one, no file is.
-/

namespace HelpText

namespace Source

section Discovery

variable {extension : Text}

/-- The name of the file ends in this text. -/
def endsIn (extension : Text) (path : Path) : Bool := extension.isSuffixOf path.name

theorem endsIn_iff (path : Path) : endsIn extension path = true ↔ extension <:+ path.name := by
  rw [endsIn, List.isSuffixOf_iff_suffix]

theorem exists_dot_of_checkExtension {value : Text}
    (h : Settings.checkExtension value = .ok extension) : ∃ tail, extension = '.' :: tail := by
  rw [Settings.checkExtension] at h
  split at h
  · cases h
  · dsimp only at h
    split at h
    · next hhead =>
      cases h
      obtain ⟨tail, htail⟩ := List.head?_eq_some_iff.mp hhead
      exact ⟨tail, htail⟩
    · cases h
      exact ⟨_, rfl⟩

/-- The extension of loaded settings has passed its check. -/
theorem exists_dot_of_load {fs : FileSystem} {source destination : Path} {asked : Option Path}
    {base : Path} {overrides : Settings.Overrides} {settings : Settings}
    (h : Settings.load fs source destination asked base overrides = .ok settings) :
    ∃ tail, settings.extension = '.' :: tail := by
  obtain ⟨merged, license, hchecked⟩ := Settings.checked_of_load h
  exact exists_dot_of_checkExtension hchecked.extension

/-- With one dot alone, that with which it begins, the extension chooses all files that end in it.
-/
theorem select_perm_ending {tail : Text} (hdot : '.' ∉ tail) (sort : Bool)
    (listing : List Path) :
    (select ('.' :: tail) sort listing).Perm (listing.filter (endsIn ('.' :: tail))) := by
  have hending : (fun path : Path => decide (extensionOf path.name = '.' :: tail)) =
      endsIn ('.' :: tail) := by
    funext path
    rw [Bool.eq_iff_iff, decide_eq_true_eq, extensionOf_eq_iff_suffix hdot, endsIn_iff]
  rw [← hending]
  exact select_perm_filter ('.' :: tail) sort listing

/-- With a further dot it chooses none: the extension of a file begins at its last dot. -/
theorem select_of_further_dot {tail : Text} (hdot : '.' ∈ tail) (sort : Bool)
    (listing : List Path) : select ('.' :: tail) sort listing = [] := by
  rw [List.eq_nil_iff_forall_not_mem]
  intro path hpath
  obtain ⟨-, hextension⟩ := (mem_select _ _ _ _).mp hpath
  exact extensionOf_ne_of_mem hdot hextension

/-- Whatever extension is accepted, a file that is discovered is listed and ends in it. All listed
files that end in it are discovered exactly if there are none or the extension has one dot alone,
with which it begins; with a further dot no file is discovered. -/
theorem discovered_iff {fs : FileSystem} {source destination : Path} {asked : Option Path}
    {base : Path} {overrides : Settings.Overrides} {settings : Settings}
    (h : Settings.load fs source destination asked base overrides = .ok settings) (sort : Bool) :
    (∀ listing : List Path,
      (∀ path ∈ select settings.extension sort listing,
        path ∈ listing ∧ settings.extension <:+ path.name) ∧
      ((select settings.extension sort listing).Perm
          (listing.filter (endsIn settings.extension)) ↔
        '.' ∉ settings.extension.tail ∨ ∀ path ∈ listing, ¬settings.extension <:+ path.name) ∧
      ('.' ∈ settings.extension.tail → select settings.extension sort listing = [])) ∧
    ∀ (files : FileSystem) (directory : Path) (listing : List Path),
      files.listFiles directory = .ok listing →
      discover files directory settings.extension sort =
        .ok (select settings.extension sort listing) := by
  obtain ⟨tail, htail⟩ := exists_dot_of_load h
  rw [htail, List.tail_cons]
  constructor
  · intro listing
    refine ⟨?_, ?_, fun hdot => select_of_further_dot hdot sort listing⟩
    · intro path hpath
      obtain ⟨hlisted, hextension⟩ := (mem_select _ _ _ _).mp hpath
      refine ⟨hlisted, ?_⟩
      rw [← hextension]
      exact extensionOf_suffix path.name
    · by_cases hdot : '.' ∈ tail
      · -- Nothing is discovered, which is right only where there is nothing to be discovered.
        rw [select_of_further_dot hdot, List.nil_perm, List.filter_eq_nil_iff]
        simp only [endsIn_iff]
        exact ⟨Or.inr, fun h => h.resolve_left fun hnone => hnone hdot⟩
      · exact ⟨fun _ => Or.inl hdot, fun _ => select_perm_ending hdot sort listing⟩
  · intro files directory listing hlisting
    rw [discover, hlisting]

end Discovery

section Examples

/-- A settings file that asks for an extension with a dot in it. -/
def twoDotsFile : FileSystem :=
  Settings.withSettingsFile (Utf8.encode (.of "[generation]\nextension=\"en.md\""))

def docs : Path := { names := [.of "docs"] }

def twoDots : Settings where
  source := docs
  destination := docs
  extension := .of ".en.md"

def translated : Path := { names := [.of "docs", .of "get.en.md"] }

theorem load_twoDotsFile :
    Settings.load twoDotsFile docs docs none { names := [] } {} = .ok twoDots := by
  decide +kernel

/-- By its last dot the file is discovered, by the longer extension it is not. -/
theorem discovered_iff_translated :
    (select (.of ".md") true [translated, docs]).Perm
        ([translated, docs].filter (endsIn (.of ".md"))) ∧
      select (.of ".en.md") true [translated, docs] = [] := by
  have hdefaults : Settings.load { home := docs } docs docs none { names := [] } {} =
      .ok { source := docs, destination := docs } := by
    decide +kernel
  obtain ⟨-, hall, -⟩ := (discovered_iff hdefaults true).1 [translated, docs]
  obtain ⟨-, -, hnone⟩ := (discovered_iff load_twoDotsFile true).1 [translated, docs]
  exact ⟨hall.mpr (Or.inl (by decide)), hnone (by decide)⟩

/-- The file ends in the extension that was accepted, and is not discovered. -/
theorem translated_not_discovered :
    select twoDots.extension true [translated] = [] ∧
    ¬∀ (fs : FileSystem) (source destination : Path) (asked : Option Path) (base : Path)
      (overrides : Settings.Overrides) (settings : Settings),
      Settings.load fs source destination asked base overrides = .ok settings →
      ∀ (sort : Bool) (listing : List Path),
        (select settings.extension sort listing).Perm
          (listing.filter (endsIn settings.extension)) := by
  have hnone : select twoDots.extension true [translated] = [] :=
    select_of_further_dot (by decide) true [translated]
  refine ⟨hnone, ?_⟩
  intro hall
  have hperm := hall _ _ _ _ _ _ _ load_twoDotsFile true [translated]
  rw [hnone, List.nil_perm] at hperm
  exact absurd hperm (by decide)

end Examples

end Source

end HelpText
