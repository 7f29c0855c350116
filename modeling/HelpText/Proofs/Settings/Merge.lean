import HelpText.Settings.Merge
import Mathlib.Data.List.Basic

/-!
What a merge without a fault leaves in a table. Every key keeps its place; a key that was given
holds what its default has become, all others hold their defaults.
-/

namespace HelpText

namespace Settings

/-- What a merge makes of a table, seen key by key. -/
structure Merged (path : Text) (base given merged : Rows) : Prop where
  changed : ∀ key value, given.get? key = some value → ∃ current, base.get? key = some current ∧
    (mergeValue (path ++ key) current value).2 = none ∧
    merged.get? key = some (mergeValue (path ++ key) current value).1
  kept : ∀ key, given.get? key = none → merged.get? key = base.get? key

theorem mergeRow_eq {path key : Text} {base merged : Rows} {value : Value}
    (h : mergeRow path base (key, value) = (merged, none)) :
    ∃ current, base.get? key = some current ∧
      (mergeValue (path ++ key) current value).2 = none ∧
      merged = base.put key (mergeValue (path ++ key) current value).1 := by
  rw [mergeRow] at h
  cases hget : base.get? key with
  | none =>
    rw [hget] at h
    cases h
  | some current =>
    rw [hget] at h
    have hmerged := congrArg Prod.fst h
    exact ⟨current, rfl, congrArg Prod.snd h, hmerged.symm⟩

/-- Rows are merged one after the other. As their keys differ, each finds the default that was there
at the beginning, and what it leaves is not changed again. -/
theorem merged_of_mergeRows {path : Text} {base given merged : Rows} (hkeys : given.keys.Nodup)
    (h : mergeRows path base given = (merged, none)) : Merged path base given merged := by
  induction given generalizing base with
  | nil =>
    rw [mergeRows] at h
    cases h
    constructor
    · intro key value hget
      cases hget
    · intro key _
      rfl
  | cons row rest ih =>
    obtain ⟨key, value⟩ := row
    obtain ⟨hkey, hrest⟩ := List.nodup_cons.mp hkeys
    rw [mergeRows] at h
    rcases hrow : mergeRow path base (key, value) with ⟨next, fault⟩
    rw [hrow] at h
    cases fault with
    | some fault => cases h
    | none =>
      obtain ⟨current, hcurrent, hvalue, rfl⟩ := mergeRow_eq hrow
      obtain ⟨hchanged, hkept⟩ := ih hrest h
      have hlater : Table.get? rest key = none := by
        rw [← Option.not_isSome_iff_eq_none, ← Table.mem_keys_iff]
        exact hkey
      constructor
      · intro other given hget
        by_cases heq : other = key
        · subst heq
          rw [Table.get?, if_pos rfl] at hget
          cases hget
          refine ⟨current, hcurrent, hvalue, ?_⟩
          rw [hkept other hlater, Table.get?_put, if_pos rfl]
        · rw [Table.get?, if_neg heq] at hget
          obtain ⟨old, hold, hmerge⟩ := hchanged other given hget
          rw [Table.get?_put, if_neg heq] at hold
          exact ⟨old, hold, hmerge⟩
      · intro other hget
        by_cases heq : other = key
        · subst heq
          rw [Table.get?, if_pos rfl] at hget
          cases hget
        · rw [Table.get?, if_neg heq] at hget
          rw [hkept other hget, Table.get?_put, if_neg heq]

/-- A default that is no table gives way to a value of its kind; `null` gives way to any. -/
theorem mergeValue_of_plain {dotted : Text} {current value : Value}
    (hplain : current.kind ≠ .table) (h : (mergeValue dotted current value).2 = none) :
    (mergeValue dotted current value).1 = value ∧
      (current.kind = .null ∨ current.kind.accepts value.kind = true) := by
  have hcurrent : ∀ inner, current = .table inner → False := by
    intro inner heq
    exact hplain (heq ▸ rfl)
  by_cases hnull : current = .null
  · subst hnull
    refine ⟨?_, Or.inl rfl⟩
    cases value <;> simp [mergeValue]
  · by_cases htable : ∃ rows, value = .table rows
    · obtain ⟨rows, rfl⟩ := htable
      rw [mergeValue.eq_3 _ _ _ hcurrent hnull] at h
      cases h
    · have hvalue : ∀ rows, value = .table rows → False := fun rows heq => htable ⟨rows, heq⟩
      rw [mergeValue.eq_6 _ _ _ hvalue hcurrent hnull] at h ⊢
      split at h
      · next haccepts =>
        rw [if_pos haccepts]
        exact ⟨rfl, Or.inr haccepts⟩
      · cases h

/-- A table of defaults takes a table, and is merged with it. -/
theorem mergeValue_of_table {dotted : Text} {inner : Rows} {value : Value}
    (h : (mergeValue dotted (.table inner) value).2 = none) :
    ∃ given merged, value = .table given ∧
      mergeRows (dotted ++ ['.']) inner given = (merged, none) ∧
      (mergeValue dotted (.table inner) value).1 = .table merged := by
  cases value with
  | table given =>
    rw [mergeValue] at h ⊢
    rcases hrows : mergeRows (dotted ++ ['.']) inner given with ⟨merged, fault⟩
    rw [hrows] at h
    obtain rfl : fault = none := h
    exact ⟨given, merged, rfl, hrows, rfl⟩
  | _ => simp [mergeValue] at h

end Settings

end HelpText
