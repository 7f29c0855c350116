import HelpText.Proofs.Log.Shelf

/-!
The steps of a rotation, from the last backup down to the log file. Main statement: a rotation loses
at most the oldest pieces of the log and keeps the others in order, whether it goes through or not.
-/

namespace HelpText

namespace Log

open FileSystem (Fits)
open RotatingFile (Step)

/-- What a step among the backups leaves of a shelf: at most the oldest pieces of the log are lost,
the log file itself is as it was, and only a path that is too long can be in the way. -/
structure Leaves (site : Site) (last : Nat) (slots : Slots) (step : Step) (slots' : Slots) :
    Prop where
  shelf : Shelf site last step.1.files slots'
  suffix : fromOldest slots'.parts last <:+ fromOldest slots.parts last
  first : slots' 0 = slots 0
  succeeds : (∀ number ≤ last, Fits (numbered site.path number)) → step.2 = true

theorem RotatingFile.andThen_true (o : OpenFiles) (next : OpenFiles → Step) :
    andThen (o, true) next = next o := rfl

namespace Shelf

variable {site : Site} {last number : Nat} {o : OpenFiles} {slots : Slots}
  {pieces : List (List UInt8)}

theorem leaves_refl (h : Shelf site last o.files slots) :
    Leaves site last slots (o, true) slots :=
  ⟨h, List.suffix_refl _, rfl, fun _ => rfl⟩

/-- The place of a backup is made free: that of the last one by giving up what it holds. -/
theorem makeRoom (h : Shelf site last o.files slots) (hnumber : number ≤ last)
    (hroom : slots number = none ∨ number = last) :
    ∃ changed, (if RotatingFile.isTaken o (numbered site.path number) then
        RotatingFile.attempt o (o.remove (numbered site.path number)) else (o, true)) =
          (changed, true) ∧
      Shelf site last changed.files (Function.update slots number none) ∧
      fromOldest (Slots.parts (Function.update slots number none)) last <:+
        fromOldest slots.parts last := by
  have hsuffix := fromOldest_drop hroom
  rw [h.isTaken_eq hnumber]
  cases hslot : slots number with
  | none =>
    have hsame : Function.update slots number none = slots := by
      rw [← hslot, Function.update_eq_self]
    rw [hsame] at hsuffix ⊢
    exact ⟨o, rfl, h, hsuffix⟩
  | some pieces =>
    obtain ⟨mode, -, hresolve⟩ := h.found hnumber hslot
    have hremove : o.remove (numbered site.path number) = .ok (o.erase (site.place number)) := by
      rw [OpenFiles.remove, hresolve]
    rw [hremove]
    exact ⟨_, rfl, h.erase hnumber hslot, hsuffix⟩

/-- A file becomes the next backup where that is free, unless the path of that is too long. -/
theorem advance (h : Shelf site last o.files slots) (hnumber : number + 1 ≤ last)
    (hsome : slots number = some pieces) (hnone : slots (number + 1) = none) :
    (Fits (numbered site.path (number + 1)) →
      o.rename (numbered site.path number) (numbered site.path (number + 1)) =
          .ok (o.move (site.place number) (site.place (number + 1))) ∧
        Shelf site last (o.move (site.place number) (site.place (number + 1))).files
          (slots.raise number)) ∧
    (¬Fits (numbered site.path (number + 1)) → ∃ fault,
      o.rename (numbered site.path number) (numbered site.path (number + 1)) = .error fault) := by
  obtain ⟨mode, -, hsource⟩ := h.found (by omega) hsome
  constructor
  · intro hfits
    have htarget := h.free hnumber hnone hfits false
    exact ⟨by rw [OpenFiles.rename, hsource, htarget], h.move hnumber hsome hfits⟩
  · intro hfits
    obtain ⟨fault, htarget⟩ := h.resolve_unfit hfits false
    exact ⟨fault, by rw [OpenFiles.rename, hsource, htarget]⟩

/-- A backup takes the place of the next one, if that is free or the last one. -/
theorem replace (h : Shelf site last o.files slots) (hnumber : number + 2 ≤ last)
    (hroom : slots (number + 2) = none ∨ number + 2 = last) :
    ∃ slots', Leaves site last slots
        (RotatingFile.replace o (numbered site.path (number + 1)) (numbered site.path (number + 2)))
        slots' ∧
      ((RotatingFile.replace o (numbered site.path (number + 1))
        (numbered site.path (number + 2))).2 = true → slots' (number + 1) = none) := by
  have hbelow : number + 1 ≤ last := by omega
  rw [RotatingFile.replace, h.isTaken_eq hbelow]
  cases hslot : slots (number + 1) with
  | none => exact ⟨slots, h.leaves_refl, fun _ => hslot⟩
  | some pieces =>
    -- First the next place is cleared, which loses the oldest pieces if it is the last one.
    obtain ⟨changed, hcleared, hshelf, hsuffix⟩ := h.makeRoom hnumber hroom
    rw [Option.isSome_some, if_pos rfl, hcleared, RotatingFile.andThen_true]
    have hsome : Function.update slots (number + 2) none (number + 1) = some pieces := by
      rw [Function.update_of_ne (by omega), hslot]
    have hnone : Function.update slots (number + 2) none (number + 1 + 1) = none :=
      Function.update_self ..
    have hzero : Function.update slots (number + 2) none 0 = slots 0 :=
      Function.update_of_ne (by omega) _ _
    obtain ⟨hmoves, hfails⟩ := hshelf.advance hnumber hsome hnone
    by_cases hfits : Fits (numbered site.path (number + 1 + 1))
    · obtain ⟨hrename, hmoved⟩ := hmoves hfits
      rw [hrename]
      refine ⟨_, ⟨hmoved, ?_, ?_, fun _ => rfl⟩, fun _ => ?_⟩
      · rw [fromOldest_raise hnumber hnone]
        exact hsuffix
      · rw [Slots.raise, Function.update_of_ne (by omega), Function.update_of_ne (by omega), hzero]
      · rw [Slots.raise, Function.update_self]
    · -- The backup stays where it is, and the rotation stops here.
      obtain ⟨fault, hrename⟩ := hfails hfits
      rw [hrename]
      refine ⟨_, ⟨hshelf, hsuffix, hzero, fun hall => ?_⟩, fun hfalse => ?_⟩
      · exact absurd (hall _ hnumber) hfits
      · cases hfalse

/-- All backups move up by one, from the last but one on, so that each finds its place free. -/
theorem shiftBackups (h : Shelf site last o.files slots) (hnumber : number + 1 ≤ last)
    (hroom : slots (number + 1) = none ∨ number + 1 = last) :
    ∃ slots', Leaves site last slots (RotatingFile.shiftBackups site.path number o) slots' ∧
      ((RotatingFile.shiftBackups site.path number o).2 = true →
        slots' 1 = none ∨ 1 = last) := by
  -- Each step frees the place for the next one: the first is the last backup, which is given up.
  induction number generalizing o slots with
  | zero => exact ⟨slots, h.leaves_refl, fun _ => hroom⟩
  | succ number ih =>
    obtain ⟨slots', hleaves, hfree⟩ := h.replace hnumber hroom
    change ∃ slots', Leaves site last slots (RotatingFile.andThen (RotatingFile.replace o
      (numbered site.path (number + 1)) (numbered site.path (number + 2)))
        (RotatingFile.shiftBackups site.path number)) slots' ∧
      ((RotatingFile.andThen (RotatingFile.replace o (numbered site.path (number + 1))
        (numbered site.path (number + 2))) (RotatingFile.shiftBackups site.path number)).2 =
          true → _)
    generalize RotatingFile.replace o (numbered site.path (number + 1))
      (numbered site.path (number + 2)) = step at hleaves hfree ⊢
    obtain ⟨o', went⟩ := step
    cases went with
    | false => exact ⟨slots', hleaves, fun hwent => by cases hwent⟩
    | true =>
      rw [RotatingFile.andThen_true]
      obtain ⟨slots'', hleaves', hfree'⟩ := ih hleaves.shelf (by omega) (Or.inl (hfree rfl))
      exact ⟨slots'', ⟨hleaves'.shelf, hleaves'.suffix.trans hleaves.suffix,
        hleaves'.first.trans hleaves.first, hleaves'.succeeds⟩, hfree'⟩

/-- A rotation frees the place of the log file, or leaves the log file as it was. At most the oldest
pieces of the log are lost, and only a path that is too long can be in the way. -/
theorem rotate (h : Shelf site last o.files slots) (hlast : 0 < last)
    (hsome : slots 0 = some pieces) :
    ∃ slots', Shelf site last (RotatingFile.rotate site.path last o).1.files slots' ∧
      fromOldest slots'.parts last <:+ fromOldest slots.parts last ∧
      slots' 0 = (if (RotatingFile.rotate site.path last o).2 then none else slots 0) ∧
      ((∀ number ≤ last, Fits (numbered site.path number)) →
        (RotatingFile.rotate site.path last o).2 = true) := by
  obtain ⟨number, rfl⟩ : ∃ number, last = number + 1 := ⟨last - 1, by omega⟩
  obtain ⟨slots', hleaves, hfree⟩ := h.shiftBackups (Nat.le_refl _) (Or.inr rfl)
  rw [RotatingFile.rotate, if_neg (by omega), Nat.add_sub_cancel]
  generalize RotatingFile.shiftBackups site.path number o = step at hleaves hfree ⊢
  obtain ⟨o', went⟩ := step
  cases went with
  | false => exact ⟨slots', hleaves.shelf, hleaves.suffix, hleaves.first, hleaves.succeeds⟩
  | true =>
    -- What was the first backup is gone or was the only one, so the log file can take its place.
    have hone : 1 ≤ number + 1 := Nat.le_add_left 1 number
    obtain ⟨changed, hcleared, hshelf, hsuffix⟩ := hleaves.shelf.makeRoom hone (hfree rfl)
    have hzero : Function.update slots' 1 none 0 = some pieces := by
      rw [Function.update_of_ne (by omega), hleaves.first, hsome]
    have hnone : Function.update slots' 1 none (0 + 1) = none := Function.update_self ..
    have htaken : RotatingFile.isTaken changed (numbered site.path 0) = true := by
      rw [hshelf.isTaken_eq (Nat.zero_le _), hzero]
      rfl
    have hstep : RotatingFile.andThen (o', true) (RotatingFile.makeFirstBackup site.path) =
        RotatingFile.attempt changed
          (changed.rename (numbered site.path 0) (numbered site.path (0 + 1))) := by
      rw [RotatingFile.andThen_true, RotatingFile.makeFirstBackup]
      change RotatingFile.andThen (if RotatingFile.isTaken o' (numbered site.path 1) then
        RotatingFile.attempt o' (o'.remove (numbered site.path 1)) else (o', true)) _ = _
      change (if RotatingFile.isTaken o' (numbered site.path 1) then
        RotatingFile.attempt o' (o'.remove (numbered site.path 1)) else (o', true)) = _ at hcleared
      rw [hcleared]
      exact if_pos htaken
    obtain ⟨hmoves, hfails⟩ := hshelf.advance hone hzero hnone
    rw [hstep]
    by_cases hfits : Fits (numbered site.path (0 + 1))
    · obtain ⟨hrename, hmoved⟩ := hmoves hfits
      rw [hrename]
      refine ⟨_, hmoved, ?_, ?_, fun _ => rfl⟩
      · rw [fromOldest_raise hone hnone]
        exact hsuffix.trans hleaves.suffix
      · rw [Slots.raise, Function.update_self]
        rfl
    · obtain ⟨fault, hrename⟩ := hfails hfits
      rw [hrename]
      refine ⟨_, hshelf, hsuffix.trans hleaves.suffix, ?_, fun hall => ?_⟩
      · rw [hzero, hsome]
        rfl
      · exact absurd (hall _ hone) hfits

end Shelf

end Log

end HelpText
