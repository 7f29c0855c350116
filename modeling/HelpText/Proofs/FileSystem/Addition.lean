import HelpText.Proofs.FileSystem.Listing

/-!
One file more. Main statement: where a file was written behind the making of directories, every path
that leads to another entry leads there still.
-/

namespace HelpText

namespace FileSystem

/-- A file was written at `location`, and directories may have been made; all else is as it was. -/
structure OneFileMore (fs after : FileSystem) (location : Location) : Prop
    extends Grows fs after where
  appends : Appends fs after
  written : ∃ content mode, after.entryAt location = some (.file content mode)
  others : ∀ other entry, other ≠ location → fs.entryAt other = some entry →
    after.entryAt other = some entry
  fresh : ∀ other entry, other ≠ location → fs.entryAt other = none →
    after.entryAt other = some entry → ∃ mode, entry = .directory mode

/-- Every link in `after` was there before. -/
def AddsNoLink (fs after : FileSystem) : Prop :=
  ∀ location target, after.entryAt location = some (.link target) →
    fs.entryAt location = some (.link target)

theorem OneFileMore.addsNoLink {fs after : FileSystem} {location : Location}
    (h : OneFileMore fs after location) : AddsNoLink fs after := by
  intro found target hlink
  obtain ⟨content, mode, hfile⟩ := h.written
  have hne : found ≠ location := by
    rintro rfl
    rw [hfile] at hlink
    cases hlink
  cases hold : fs.entryAt found with
  | none =>
    obtain ⟨mode', heq⟩ := h.fresh found _ hne hold hlink
    cases heq
  | some entry => rw [← h.others found entry hne hold, hlink]

theorem put_self {fs : FileSystem} {location : Location} {entry : Entry} (hroot : location ≠ [])
    (h : fs.entryAt location = some entry) : fs.put location entry = fs := by
  rw [entryAt, if_neg hroot] at h
  simp only [put, Table.put_self h]

/-- Writing a file behind the making of directories. -/
theorem MadeAlong.put_file {fs made : FileSystem} {path : Path} {location : Location}
    {content : List UInt8} {mode : Nat} (h : MadeAlong fs made path) (happends : Appends fs made)
    (hroot : location ≠ []) (hplace : made.entryAt location = none ∨
      ∃ old oldMode, made.entryAt location = some (.file old oldMode)) :
    OneFileMore fs (made.put location (.file content mode)) location := by
  have hgrows : Grows made (made.put location (.file content mode)) := .put_taken hplace
  have hwritten : (made.put location (.file content mode)).entryAt location =
      some (.file content mode) := entryAt_put_self hroot
  refine ⟨h.grows.trans hgrows, happends.trans (.put made location _), ⟨_, _, hwritten⟩, ?_, ?_⟩
  · intro other entry hne hentry
    rw [entryAt_put_of_ne hne]
    rcases h.entries other with hsame | ⟨hnone, -⟩
    · rw [hsame, hentry]
    · rw [hnone] at hentry
      cases hentry
  · intro other entry hne hnone hentry
    rw [entryAt_put_of_ne hne] at hentry
    rcases h.entries other with hsame | ⟨-, mode, hmode, -⟩
    · rw [hsame, hnone] at hentry
      cases hentry
    · rw [hmode] at hentry
      exact ⟨mode, (Option.some.inj hentry).symm⟩

namespace OneFileMore

variable {fs after : FileSystem} {location : Location} {path : Path}

/-- What a path leads to is the same, unless it leads to the file that was written. -/
theorem resolve_occupied (h : OneFileMore fs after location) {found : Location} {entry : Entry}
    (hresolve : fs.resolve true path = .ok (.occupied found entry))
    (hapart : ∀ entry, after.resolve true path ≠ .ok (.occupied location entry)) :
    after.resolve true path = .ok (.occupied found entry) := by
  obtain ⟨other, -, hafter⟩ := h.toGrows.resolve_occupied hresolve
  have hne : found ≠ location := by
    rintro rfl
    exact hapart other hafter
  have hentry : after.entryAt found = some entry :=
    h.others found entry hne (isIn_of_resolve hresolve)
  have hother : after.entryAt found = some other := isIn_of_resolve hafter
  rw [hentry] at hother
  rwa [Option.some.inj hother]

theorem readText (h : OneFileMore fs after location) {text : Text}
    (hread : fs.readText path = .ok text)
    (hapart : ∀ entry, after.resolve true path ≠ .ok (.occupied location entry)) :
    after.readText path = .ok text := by
  have hfile : after.readFile path = fs.readFile path := by
    cases hresolve : fs.resolve true path with
    | error fault => simp [FileSystem.readText, readFile, entry?, hresolve] at hread
    | ok place =>
      cases place with
      | free => simp [FileSystem.readText, readFile, entry?, hresolve] at hread
      | occupied found entry =>
        rw [readFile, readFile, entry?, entry?, hresolve, h.resolve_occupied hresolve hapart]
  rw [FileSystem.readText, hfile]
  exact hread

end OneFileMore

end FileSystem

end HelpText
