import HelpText.Proofs.FileSystem.Ways
import HelpText.Proofs.Log.Site
import Mathlib.Logic.Function.Basic

/-!
A log file and its backups, side by side in their directory. Main statement: a rotation loses at
most the oldest pieces of the log and keeps the others in order, whether it goes through or not.
-/

namespace HelpText

namespace Log

open FileSystem (Fits Passes SameProcess)

/-- The parts of a log in order: those of the last backup first, those of the log file last. -/
def fromOldest {α : Type} (parts : Nat → List α) : Nat → List α
  | 0 => parts 0
  | number + 1 => parts (number + 1) ++ fromOldest parts number

/-- The pieces of the log file, as number 0, and of each backup; `none` where there is no file. -/
abbrev Slots := Nat → Option (List (List UInt8))

namespace Slots

def parts (slots : Slots) (number : Nat) : List (List UInt8) := (slots number).getD []

/-- The slots when a file becomes the next backup. -/
def raise (slots : Slots) (number : Nat) : Slots :=
  Function.update (Function.update slots (number + 1) (slots number)) number none

end Slots

section Order

variable {α : Type} {parts parts' : Nat → List α} {slots : Slots} {number last : Nat}

theorem fromOldest_congr (h : ∀ number ≤ last, parts number = parts' number) :
    fromOldest parts last = fromOldest parts' last := by
  induction last with
  | zero => exact h 0 (Nat.le_refl 0)
  | succ last ih =>
    rw [fromOldest, fromOldest, h _ (Nat.le_refl _), ih fun number hle => h number (by omega)]

/-- The last part comes first, and without it the others stay. -/
theorem fromOldest_eq_append (hlast : parts' last = [])
    (h : ∀ number < last, parts' number = parts number) :
    fromOldest parts last = parts last ++ fromOldest parts' last := by
  cases last with
  | zero => rw [fromOldest, fromOldest, hlast, List.append_nil]
  | succ last =>
    rw [fromOldest, fromOldest, hlast, List.nil_append,
      fromOldest_congr fun number hle => (h number (by omega)).symm]

/-- What comes behind the log file comes behind everything. -/
theorem fromOldest_append {new : List α} (hzero : parts' 0 = parts 0 ++ new)
    (h : ∀ number > 0, parts' number = parts number) :
    fromOldest parts' last = fromOldest parts last ++ new := by
  induction last with
  | zero => exact hzero
  | succ last ih =>
    rw [fromOldest, fromOldest, h _ (Nat.succ_pos last), ih, List.append_assoc]

/-- Without the last backup the end of the log is left. -/
theorem fromOldest_drop (hroom : slots number = none ∨ number = last) :
    fromOldest (Slots.parts (Function.update slots number none)) last <:+
      fromOldest slots.parts last := by
  rcases hroom with hnone | rfl
  · have hsame : Function.update slots number none = slots := by
      rw [← hnone, Function.update_eq_self]
    simp only [hsame, List.suffix_rfl]
  · have hsplit : fromOldest slots.parts number = slots.parts number ++
        fromOldest (Slots.parts (Function.update slots number none)) number := by
      refine fromOldest_eq_append (by simp [Slots.parts]) fun other hlt => ?_
      simp [Slots.parts, Function.update_of_ne (Nat.ne_of_lt hlt)]
    rw [hsplit]
    exact List.suffix_append _ _

/-- Moving a file up into a free slot changes nothing about the log. -/
theorem fromOldest_raise (hnumber : number + 1 ≤ last) (hnone : slots (number + 1) = none) :
    fromOldest (slots.raise number).parts last = fromOldest slots.parts last := by
  have hother {other : Nat} (hne : other ≠ number) (hne' : other ≠ number + 1) :
      (slots.raise number).parts other = slots.parts other := by
    simp [Slots.parts, Slots.raise, Function.update_of_ne hne, Function.update_of_ne hne']
  have hup : (slots.raise number).parts (number + 1) = slots.parts number := by
    simp [Slots.parts, Slots.raise]
  have hdown : (slots.raise number).parts number = [] := by
    simp [Slots.parts, Slots.raise]
  -- By induction on how far the log reaches: the two slots are its last ones, or lie below.
  induction last with
  | zero => omega
  | succ last ih =>
    by_cases htop : number = last
    · subst htop
      have hbelow : fromOldest slots.parts number =
          slots.parts number ++ fromOldest (slots.raise number).parts number :=
        fromOldest_eq_append hdown fun other hlt => hother (by omega) (by omega)
      have hempty : slots.parts (number + 1) = [] := by simp [Slots.parts, hnone]
      calc fromOldest (slots.raise number).parts (number + 1)
          = slots.parts number ++ fromOldest (slots.raise number).parts number := by
            rw [fromOldest, hup]
        _ = fromOldest slots.parts number := hbelow.symm
        _ = fromOldest slots.parts (number + 1) := by rw [fromOldest, hempty, List.nil_append]
    · rw [fromOldest, fromOldest, ih (by omega)]
      by_cases hnext : last + 1 = number + 1
      · omega
      · rw [hother (by omega) hnext]

end Order

/-- The path of a log file leads into the directory of its site, by a name that leads down. -/
structure Site.Leads (site : Site) (fs : FileSystem) : Prop where
  rooted : site.path.root ≠ []
  isName : Path.isName site.path.name = true
  not_up : site.path.name ≠ ['.', '.']
  directory : ∃ mode, fs.resolve true site.path.parent =
    .ok (.occupied site.directory (.directory mode))

namespace Site.Leads

variable {site : Site} {fs after : FileSystem} {number : Nat}

theorem resolve_none (h : site.Leads fs) (hfits : Fits (numbered site.path number))
    (hentry : fs.entryAt (site.place number) = none) (followLast : Bool) :
    fs.resolve followLast (numbered site.path number) = .ok (.free (site.place number) false) := by
  obtain ⟨hname, hup⟩ := proper_numbered h.isName h.not_up number
  obtain ⟨mode, hdirectory⟩ := h.directory
  have hpath := numbered_eq h.isName number
  rw [hpath] at hfits ⊢
  exact FileSystem.resolve_entry_none hname hup hdirectory hfits hentry

theorem resolve_file (h : site.Leads fs) (hfits : Fits (numbered site.path number))
    {content : List UInt8} {mode : Nat}
    (hentry : fs.entryAt (site.place number) = some (.file content mode)) (followLast : Bool) :
    fs.resolve followLast (numbered site.path number) =
      .ok (.occupied (site.place number) (.file content mode)) := by
  obtain ⟨hname, hup⟩ := proper_numbered h.isName h.not_up number
  obtain ⟨mode, hdirectory⟩ := h.directory
  have hpath := numbered_eq h.isName number
  rw [hpath] at hfits ⊢
  exact FileSystem.resolve_entry_file hname hup hdirectory hfits hentry

theorem resolve_some (h : site.Leads fs) (hfits : Fits (numbered site.path number)) {entry : Entry}
    (hentry : fs.entryAt (site.place number) = some entry) :
    fs.resolve false (numbered site.path number) = .ok (.occupied (site.place number) entry) := by
  obtain ⟨hname, hup⟩ := proper_numbered h.isName h.not_up number
  obtain ⟨mode, hdirectory⟩ := h.directory
  have hpath := numbered_eq h.isName number
  rw [hpath] at hfits ⊢
  exact FileSystem.resolve_entry_some hname hup hdirectory hfits hentry

/-- A path that leads anywhere is not too long. -/
theorem fits_of_resolve {place : FileSystem.Place} (h : site.Leads fs)
    (hresolve : fs.resolve followLast (numbered site.path number) = .ok place) :
    Fits (numbered site.path number) := by
  obtain ⟨hname, hup⟩ := proper_numbered h.isName h.not_up number
  obtain ⟨mode, hdirectory⟩ := h.directory
  rw [numbered_eq h.isName number] at hresolve ⊢
  exact FileSystem.fits_of_resolve hname hup hdirectory hresolve

theorem resolve_unfit (h : site.Leads fs) (hfits : ¬Fits (numbered site.path number))
    (followLast : Bool) :
    ∃ fault, fs.resolve followLast (numbered site.path number) = .error fault := by
  cases hresolve : fs.resolve followLast (numbered site.path number) with
  | error fault => exact ⟨fault, rfl⟩
  | ok place => exact absurd (h.fits_of_resolve hresolve) hfits

/-- The way to the directory leads through no place where a file stands or nothing. -/
theorem change (h : site.Leads fs) (hprocess : SameProcess fs after) (numbers : List Nat)
    (hchanged : ∀ number ∈ numbers, ¬Passes fs (site.place number))
    (hsame : ∀ other, (∀ number ∈ numbers, ¬site.place number <+: other) →
      after.entryAt other = fs.entryAt other) : site.Leads after := by
  obtain ⟨mode, hdirectory⟩ := h.directory
  refine ⟨h.rooted, h.isName, h.not_up, mode,
    FileSystem.directory_stays h.rooted hprocess (numbers.map site.place) ?_ ?_ hdirectory⟩
  · intro place hplace
    obtain ⟨number, hin, rfl⟩ := List.mem_map.mp hplace
    exact hchanged number hin
  · intro other hother
    exact hsame other fun number hin => hother _ (List.mem_map_of_mem hin)

end Site.Leads

/-- What is found where a slot has its place: a file of these pieces, or nothing. -/
def HoldsAt (fs : FileSystem) (location : Location) : Option (List (List UInt8)) → Prop
  | none => fs.entryAt location = none
  | some pieces => ∃ mode, fs.entryAt location = some (.file pieces.flatten mode)

section HoldsAt

variable {fs after : FileSystem} {location : Location} {slot : Option (List (List UInt8))}

theorem HoldsAt.not_passes (h : HoldsAt fs location slot) : ¬Passes fs location := by
  rintro ⟨entry, hentry, hfile⟩
  cases slot with
  | none =>
    rw [HoldsAt, hentry] at h
    cases h
  | some pieces =>
    obtain ⟨mode, hfound⟩ := h
    rw [hentry] at hfound
    cases hfound
    cases hfile

theorem HoldsAt.congr (h : HoldsAt fs location slot)
    (hentry : after.entryAt location = fs.entryAt location) : HoldsAt after location slot := by
  cases slot with
  | none => exact hentry.trans h
  | some pieces =>
    obtain ⟨mode, hfound⟩ := h
    exact ⟨mode, hentry.trans hfound⟩

end HoldsAt

/-- A log file and its backups up to the last, each of which is a file of these pieces or absent.
One whose path is too long cannot be there. -/
structure Shelf (site : Site) (last : Nat) (fs : FileSystem) (slots : Slots) : Prop
    extends site.Leads fs where
  holds : ∀ number ≤ last, Fits (numbered site.path number) →
    HoldsAt fs (site.place number) (slots number)
  unfit : ∀ number ≤ last, ¬Fits (numbered site.path number) → slots number = none

namespace Shelf

variable {site : Site} {last number : Nat} {fs after : FileSystem} {slots slots' : Slots}
  {pieces : List (List UInt8)}

theorem fits (h : Shelf site last fs slots) (hnumber : number ≤ last)
    (hsome : slots number = some pieces) : Fits (numbered site.path number) := by
  by_contra hnot
  rw [h.unfit number hnumber hnot] at hsome
  cases hsome

/-- Each file is found by its path. -/
theorem found (h : Shelf site last fs slots) (hnumber : number ≤ last)
    (hsome : slots number = some pieces) :
    ∃ mode, fs.entryAt (site.place number) = some (.file pieces.flatten mode) ∧
      ∀ followLast, fs.resolve followLast (numbered site.path number) =
        .ok (.occupied (site.place number) (.file pieces.flatten mode)) := by
  have hfits := h.fits hnumber hsome
  have hholds := h.holds number hnumber hfits
  rw [hsome] at hholds
  obtain ⟨mode, hentry⟩ := hholds
  exact ⟨mode, hentry, h.resolve_file hfits hentry⟩

/-- Where there is no file the place is free, unless its path is too long. -/
theorem free (h : Shelf site last fs slots) (hnumber : number ≤ last)
    (hnone : slots number = none) (hfits : Fits (numbered site.path number)) (followLast : Bool) :
    fs.resolve followLast (numbered site.path number) = .ok (.free (site.place number) false) := by
  have hentry := h.holds number hnumber hfits
  rw [hnone] at hentry
  exact h.resolve_none hfits hentry followLast

/-- A path leads to an entry exactly if there is a file. -/
theorem entry?_eq (h : Shelf site last fs slots) (hnumber : number ≤ last) :
    match slots number with
    | some pieces => ∃ mode, FileSystem.entry? fs (numbered site.path number) =
        .ok (.file pieces.flatten mode)
    | none => ∃ fault, FileSystem.entry? fs (numbered site.path number) = .error fault := by
  rw [FileSystem.entry?.eq_def]
  cases hslot : slots number with
  | some pieces =>
    obtain ⟨mode, -, hresolve⟩ := h.found hnumber hslot
    rw [hresolve]
    exact ⟨mode, rfl⟩
  | none =>
    by_cases hfits : Fits (numbered site.path number)
    · rw [h.free hnumber hslot hfits]
      exact ⟨_, rfl⟩
    · obtain ⟨fault, hresolve⟩ := h.resolve_unfit hfits true
      rw [hresolve]
      exact ⟨fault, rfl⟩

theorem isTaken_eq {o : OpenFiles} (h : Shelf site last o.files slots) (hnumber : number ≤ last) :
    RotatingFile.isTaken o (numbered site.path number) = (slots number).isSome := by
  have hentry := h.entry?_eq hnumber
  rw [RotatingFile.isTaken, FileSystem.leadsTo]
  cases hslot : slots number with
  | some pieces =>
    rw [hslot] at hentry
    obtain ⟨mode, hfile⟩ := hentry
    rw [hfile]
    rfl
  | none =>
    rw [hslot] at hentry
    obtain ⟨fault, habsent⟩ := hentry
    rw [habsent]
    rfl

theorem readFile_eq (h : Shelf site last fs slots) (hnumber : number ≤ last) :
    (fs.readFile (numbered site.path number)).toOption = (slots number).map List.flatten := by
  have hentry := h.entry?_eq hnumber
  rw [FileSystem.readFile]
  cases hslot : slots number with
  | some pieces =>
    rw [hslot] at hentry
    obtain ⟨mode, hfile⟩ := hentry
    rw [hfile]
    rfl
  | none =>
    rw [hslot] at hentry
    obtain ⟨fault, habsent⟩ := hentry
    rw [habsent]
    rfl

section Changes

/-- When nothing changes but at the places of some slots, the rest of the shelf stays. -/
theorem change (h : Shelf site last fs slots) (numbers : List Nat)
    (hprocess : SameProcess fs after)
    (hfits : ∀ number ∈ numbers, number ≤ last ∧ Fits (numbered site.path number))
    (hsame : ∀ other, (∀ number ∈ numbers, ¬site.place number <+: other) →
      after.entryAt other = fs.entryAt other)
    (hslots : ∀ number, number ∉ numbers → slots' number = slots number)
    (hnew : ∀ number ∈ numbers, HoldsAt after (site.place number) (slots' number)) :
    Shelf site last after slots' := by
  have hleads : site.Leads after := by
    refine h.toLeads.change hprocess numbers (fun number hin => ?_) hsame
    obtain ⟨hnumber, hfit⟩ := hfits number hin
    exact (h.holds number hnumber hfit).not_passes
  refine ⟨hleads, fun number hnumber hfit => ?_, fun number hnumber hfit => ?_⟩
  · by_cases hin : number ∈ numbers
    · exact hnew number hin
    · -- A slot that stays is not below one that changes.
      have hentry : after.entryAt (site.place number) = fs.entryAt (site.place number) := by
        refine hsame _ fun other hother hprefix => hin ?_
        rwa [← site.eq_of_place_prefix hprefix]
      rw [hslots number hin]
      exact (h.holds number hnumber hfit).congr hentry
  · have hnot : number ∉ numbers := fun hin => hfit (hfits number hin).2
    rw [hslots number hnot]
    exact h.unfit number hnumber hfit

/-- The case of one slot. -/
theorem changeOne (h : Shelf site last fs slots) (slot : Option (List (List UInt8)))
    (hprocess : SameProcess fs after) (hnumber : number ≤ last)
    (hfits : Fits (numbered site.path number))
    (hsame : ∀ other, ¬site.place number <+: other → after.entryAt other = fs.entryAt other)
    (hnew : HoldsAt after (site.place number) slot) :
    Shelf site last after (Function.update slots number slot) := by
  refine h.change [number] hprocess ?_ ?_ ?_ ?_
  · intro other hin
    obtain rfl := List.mem_singleton.mp hin
    exact ⟨hnumber, hfits⟩
  · exact fun other hother => hsame other (hother number (List.mem_singleton_self _))
  · intro other hother
    exact Function.update_of_ne (fun heq => hother (List.mem_singleton.mpr heq)) _ _
  · intro other hin
    obtain rfl := List.mem_singleton.mp hin
    rw [Function.update_self]
    exact hnew

theorem place_ne_nil (site : Site) (number : Nat) : site.place number ≠ [] := by
  simp [Site.place]

theorem put (h : Shelf site last fs slots) (hnumber : number ≤ last)
    (hfits : Fits (numbered site.path number)) (pieces : List (List UInt8)) (mode : Nat) :
    Shelf site last (fs.put (site.place number) (.file pieces.flatten mode))
      (Function.update slots number (some pieces)) := by
  refine h.changeOne (some pieces) ⟨rfl, rfl, rfl, rfl, rfl⟩ hnumber hfits (fun other hnot => ?_)
    ⟨mode, ?_⟩
  · have hne : other ≠ site.place number := by
      rintro rfl
      exact hnot (List.prefix_refl _)
    exact FileSystem.entryAt_put_of_ne hne
  · exact FileSystem.entryAt_put_self (place_ne_nil site number)

theorem erase (h : Shelf site last fs slots) (hnumber : number ≤ last)
    (hsome : slots number = some pieces) :
    Shelf site last (fs.erase (site.place number)) (Function.update slots number none) := by
  have hfits := h.fits hnumber hsome
  refine h.changeOne none ⟨rfl, rfl, rfl, rfl, rfl⟩ hnumber hfits (fun other hnot => ?_) ?_
  · rw [FileSystem.entryAt_erase,
      if_neg fun hprefix => hnot (List.isPrefixOf_iff_prefix.mp hprefix)]
    split
    · next hroot => rw [hroot]; rfl
    · rfl
  · rw [HoldsAt, FileSystem.entryAt_erase, if_neg (place_ne_nil site number),
      if_pos (List.isPrefixOf_iff_prefix.mpr (List.prefix_refl _))]

theorem move (h : Shelf site last fs slots) (hnumber : number + 1 ≤ last)
    (hsome : slots number = some pieces) (hfits : Fits (numbered site.path (number + 1))) :
    Shelf site last (fs.move (site.place number) (site.place (number + 1)))
      (slots.raise number) := by
  have hapart : ¬site.place number <+: site.place (number + 1) := fun hprefix => by
    have heq := site.eq_of_place_prefix hprefix
    omega
  have hapart' : ¬site.place (number + 1) <+: site.place number := fun hprefix => by
    have heq := site.eq_of_place_prefix hprefix
    omega
  refine h.change [number, number + 1] ⟨rfl, rfl, rfl, rfl, rfl⟩ ?_ ?_ ?_ ?_
  · intro other hin
    rcases List.mem_pair.mp hin with rfl | rfl
    · exact ⟨by omega, h.fits (by omega) hsome⟩
    · exact ⟨hnumber, hfits⟩
  · intro other hother
    rw [FileSystem.entryAt_move _ (hother (number + 1) (by simp)),
      if_neg (hother number (by simp))]
    split
    · next hroot => rw [hroot]; rfl
    · rfl
  · intro other hother
    have hne : other ≠ number := fun heq => hother (by simp [heq])
    have hne' : other ≠ number + 1 := fun heq => hother (by simp [heq])
    rw [Slots.raise, Function.update_of_ne hne, Function.update_of_ne hne']
  -- The lower slot is empty now, and what was in it is in the upper one.
  · intro other hin
    rcases List.mem_pair.mp hin with rfl | rfl
    · rw [Slots.raise, Function.update_self, HoldsAt, FileSystem.entryAt_move _ hapart',
        if_neg (place_ne_nil site other), if_pos (List.prefix_refl _)]
    · obtain ⟨mode, hentry, -⟩ := h.found (by omega) hsome
      rw [Slots.raise, Function.update_of_ne (by omega), Function.update_self, hsome]
      exact ⟨mode, (FileSystem.entryAt_move_target fs hapart hapart').trans hentry⟩

end Changes

end Shelf

section Opening

/-- At the path itself stands a file, or nothing. -/
def isAbsentOrFile (fs : FileSystem) (path : Path) : Bool :=
  match fs.resolve false path with
  | .ok (.occupied _ entry) => FileSystem.isFile entry
  | _ => true

variable {fs : FileSystem} {site : Site} {last : Nat}

/-- A log file and its backups are a shelf if each is a file or absent; what was there at first
counts as one piece for each file. -/
theorem shelf_of_files (h : site.Leads fs)
    (hclear : ∀ number ≤ last, isAbsentOrFile fs (numbered site.path number) = true) :
    Shelf site last fs fun number =>
      (fs.readFile (numbered site.path number)).toOption.map fun content => [content] := by
  refine ⟨h, fun number hnumber hfits => ?_, fun number _ hfits => ?_⟩
  · cases hentry : fs.entryAt (site.place number) with
    | none =>
      rw [FileSystem.readFile, FileSystem.entry?.eq_def, h.resolve_none hfits hentry]
      exact hentry
    | some entry =>
      -- A link is not followed here, so what stands there is the file or nothing else.
      have hfile := hclear number hnumber
      rw [isAbsentOrFile, h.resolve_some hfits hentry] at hfile
      cases entry with
      | file content mode =>
        rw [FileSystem.readFile, FileSystem.entry?.eq_def, h.resolve_file hfits hentry]
        refine ⟨mode, ?_⟩
        rw [List.flatten_singleton]
        exact hentry
      | directory mode => cases hfile
      | link target => cases hfile
  · obtain ⟨fault, hresolve⟩ := h.resolve_unfit hfits true
    rw [FileSystem.readFile, FileSystem.entry?.eq_def, hresolve]
    rfl

end Opening

end Log

end HelpText
