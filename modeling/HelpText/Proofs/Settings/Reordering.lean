import HelpText.Proofs.Settings.Remerging

/-!
The order of keys. Two values are one up to the order of keys if their tables have the same keys and
hold the same for each of them, however deep they lie. Main statement: of two tables that are one up
to the order of keys, both are merged without a fault, and leave tables that are one up to the order
of keys, or neither is.
-/

namespace HelpText

namespace Settings

open Toml (KeysDiffer keysDiffer_table)

/-- The values are one up to the order of the keys in their tables, at any depth. -/
inductive Reordered : Value → Value → Prop
  | plain {value : Value} (h : Toml.hasParts value = false) : Reordered value value
  /-- The items of an array keep their places. -/
  | array {items others : List Value} (hlength : items.length = others.length)
      (h : ∀ (n : Nat) item other, items[n]? = some item → others[n]? = some other →
        Reordered item other) : Reordered (.array items) (.array others)
  | table {rows others : Rows} (hkeys : rows.keys.Perm others.keys)
      (h : ∀ key value other, rows.get? key = some value → others.get? key = some other →
        Reordered value other) : Reordered (.table rows) (.table others)

section Reordering

variable {base given other : Rows} {current value value' : Value}

theorem Reordered.kind_eq (h : Reordered value value') : value'.kind = value.kind := by
  cases h <;> rfl

theorem Reordered.refl (h : KeysDiffer value) : Reordered value value := by
  induction h with
  | plain h => exact .plain h
  | @array items h ih =>
    apply Reordered.array rfl
    intro n item other hitem hother
    obtain rfl : item = other := Option.some.inj (hitem.symm.trans hother)
    exact ih item (List.mem_of_getElem? hitem)
  | @table rows hkeys h ih =>
    apply Reordered.table (.refl _)
    intro key value other hvalue hother
    obtain rfl : value = other := Option.some.inj (hvalue.symm.trans hother)
    exact ih (key, value) ((Table.mem_iff_get? hkeys key value).mpr hvalue)

theorem Reordered.symm (h : Reordered value value') : Reordered value' value := by
  induction h with
  | plain h => exact .plain h
  | array hlength h ih =>
    exact .array hlength.symm fun n item other hitem hother => ih n other item hother hitem
  | table hkeys h ih =>
    exact .table hkeys.symm fun key value other hvalue hother => ih key other value hother hvalue

/-- Rows in another order are the same table up to the order of keys. -/
theorem Reordered.of_perm (h : given.Perm other) (hgiven : KeysDiffer (.table given)) :
    Reordered (.table given) (.table other) := by
  obtain ⟨hkeys, hrows⟩ := keysDiffer_table hgiven
  have hperm : given.keys.Perm other.keys := h.map Prod.fst
  apply Reordered.table hperm
  intro key value value' hvalue hvalue'
  have hmem := (Table.mem_iff_get? hkeys key value).mpr hvalue
  have hheld := (Table.mem_iff_get? (hperm.nodup_iff.mp hkeys) key value).mp (h.mem_iff.mp hmem)
  obtain rfl : value = value' := Option.some.inj (hheld.symm.trans hvalue')
  exact .refl (hrows (key, value) hmem)

/-- A key that both tables have or both lack holds something in both or in neither. -/
theorem isSome_get?_of_perm (hkeys : given.keys.Perm other.keys) (key : Text) :
    (given.get? key).isSome = (other.get? key).isSome := by
  rw [Bool.eq_iff_iff, ← Table.mem_keys_iff, ← Table.mem_keys_iff, hkeys.mem_iff]

/-- What fits a default fits it in any order of keys. -/
theorem Conforms.reordered (hfits : Conforms current value) (h : Reordered value value')
    (hvalue : KeysDiffer value) (hvalue' : KeysDiffer value') : Conforms current value' := by
  induction hfits generalizing value' with
  | null => exact .null value'
  | plain hplain hkind => exact .plain hplain (h.kind_eq ▸ hkind)
  | @table base given hkeys hvalues ih =>
    obtain ⟨hgiven, hrows⟩ := keysDiffer_table hvalue
    cases h with
    | plain h => cases h
    | @table _ other hperm hsame =>
      obtain ⟨hother, hrows'⟩ := keysDiffer_table hvalue'
      -- Every row of the one table has its counterpart under the same key in the other.
      have hcounterpart (row : Text × Value) (hrow : row ∈ other) :
          ∃ held, (row.1, held) ∈ given ∧ Reordered held row.2 := by
        have hget := (Table.mem_iff_get? hother row.1 row.2).mp hrow
        have hsome : (given.get? row.1).isSome := by
          rw [isSome_get?_of_perm hperm, hget]
          rfl
        obtain ⟨held, hheld⟩ := Option.isSome_iff_exists.mp hsome
        exact ⟨held, (Table.mem_iff_get? hgiven row.1 held).mpr hheld,
          hsame row.1 held row.2 hheld hget⟩
      apply Conforms.table
      · intro row hrow
        obtain ⟨held, hmem, -⟩ := hcounterpart row hrow
        exact hkeys (row.1, held) hmem
      · intro row hrow current hcurrent
        obtain ⟨held, hmem, hheld⟩ := hcounterpart row hrow
        exact ih (row.1, held) hmem current hcurrent hheld (hrows _ hmem) (hrows' row hrow)

/-- What becomes of a default is one up to the order of keys, too. -/
theorem Reordered.overriddenBy (h : Reordered value value') (hcurrent : KeysDiffer current) :
    Reordered (current.overriddenBy value) (current.overriddenBy value') := by
  induction h generalizing current with
  | plain h =>
    have hkind := kind_ne_table_of_plain h
    rw [overriddenBy_of_value_ne_table hkind]
    exact .plain h
  | @array items others hlength h ih =>
    rw [overriddenBy_of_value_ne_table (kind_array_ne_table items),
      overriddenBy_of_value_ne_table (kind_array_ne_table others)]
    exact .array hlength h
  | @table given other hkeys h ih =>
    by_cases hkind : current.kind = .table
    · obtain ⟨base, rfl⟩ := exists_rows_of_kind hkind
      rw [Value.overriddenBy, Value.overriddenBy]
      apply Reordered.table
      · rw [keys_overriddenRows, keys_overriddenRows]
      · intro key result result' hresult hresult'
        rw [get?_overriddenRows, Option.map_eq_some_iff] at hresult hresult'
        obtain ⟨old, hold, rfl⟩ := hresult
        obtain ⟨old', hold', rfl⟩ := hresult'
        obtain rfl : old = old' := Option.some.inj (hold.symm.trans hold')
        have hdiffer := Toml.keysDiffer_of_get? hcurrent hold
        have hsome := isSome_get?_of_perm hkeys key
        -- Either both tables give a value for the key or neither does.
        cases hgiven : given.get? key with
        | none =>
          rw [hgiven, Option.isSome_none, eq_comm, Option.isSome_eq_false_iff,
            Option.isNone_iff_eq_none] at hsome
          rw [hsome]
          exact .refl hdiffer
        | some held =>
          rw [hgiven, Option.isSome_some, eq_comm] at hsome
          obtain ⟨held', hother⟩ := Option.isSome_iff_exists.mp hsome
          rw [hother]
          exact ih key held held' hgiven hother hdiffer
    · rw [overriddenBy_of_ne_table hkind, overriddenBy_of_ne_table hkind]
      exact .table hkeys h

/-- The order of keys does not matter to a merge. Of two tables that are one up to the order of keys
both are merged, and leave tables that are one up to the order of keys and have the keys of the
defaults in their order; or both stop the merge. -/
theorem mergeRows_reordered (hbase : KeysDiffer (.table base))
    (hgiven : KeysDiffer (.table given)) (hother : KeysDiffer (.table other))
    (h : Reordered (.table given) (.table other)) (path : Text) :
    (∃ merged merged' : Rows, mergeRows path base given = (merged, none) ∧
      mergeRows path base other = (merged', none) ∧ merged.keys = merged'.keys ∧
      Reordered (.table merged) (.table merged')) ∨
    ∃ merged fault merged' fault', mergeRows path base given = (merged, some fault) ∧
      mergeRows path base other = (merged', some fault') := by
  by_cases hfits : Conforms (.table base) (.table given)
  · have hfits' := hfits.reordered h hgiven hother
    refine Or.inl ⟨_, _, mergeRows_of_conforms hfits hbase hgiven path,
      mergeRows_of_conforms hfits' hbase hother path, ?_, ?_⟩
    · rw [keys_overriddenRows, keys_overriddenRows]
    · have hsame := h.overriddenBy hbase
      rwa [Value.overriddenBy, Value.overriddenBy] at hsame
  · have hfits' : ¬Conforms (.table base) (.table other) := by
      intro hconforms
      exact hfits (hconforms.reordered h.symm hother hgiven)
    obtain ⟨merged, fault, hmerged⟩ := mergeRows_of_not_conforms hbase hgiven hfits path
    obtain ⟨merged', fault', hmerged'⟩ := mergeRows_of_not_conforms hbase hother hfits' path
    exact Or.inr ⟨merged, fault, merged', fault', hmerged, hmerged'⟩

end Reordering

/-- A table for a key without a value, and a table of settings. -/
def nameFirstRows : Rows :=
  [(Text.of "name", .table [(Text.of "first", .integer 1), (Text.of "second", .integer 2)]),
    (Text.of "inner", .table [(Text.of "on", .boolean false), (Text.of "size", .integer 5)])]

/-- The same with the keys of all its tables the other way round. -/
def innerFirstRows : Rows :=
  [(Text.of "inner", .table [(Text.of "size", .integer 5), (Text.of "on", .boolean false)]),
    (Text.of "name", .table [(Text.of "second", .integer 2), (Text.of "first", .integer 1)])]

/-- A value that fits, and a key that is unknown. -/
def unknownLastRows : Rows := [(Text.of "count", .boolean true), (Text.of "size", .integer 5)]

theorem reordered_nameFirstRows :
    KeysDiffer (.table nameFirstRows) ∧ KeysDiffer (.table innerFirstRows) ∧
      Reordered (.table nameFirstRows) (.table innerFirstRows) := by
  have hpair {first second : Text × Value} (hdiffer : [first.1, second.1].Nodup)
      (hfirst : KeysDiffer first.2) (hsecond : KeysDiffer second.2) :
      KeysDiffer (.table [first, second]) :=
    .table hdiffer (List.forall_mem_cons.mpr ⟨hfirst, List.forall_mem_singleton.mpr hsecond⟩)
  have hname : KeysDiffer
      (.table [(Text.of "first", .integer 1), (Text.of "second", .integer 2)]) :=
    hpair (by decide) (.plain rfl) (.plain rfl)
  have hinner : KeysDiffer
      (.table [(Text.of "on", .boolean false), (Text.of "size", .integer 5)]) :=
    hpair (by decide) (.plain rfl) (.plain rfl)
  have hgiven : KeysDiffer (.table nameFirstRows) := hpair (by decide) hname hinner
  refine ⟨hgiven, hpair (by decide) (hpair (by decide) (.plain rfl) (.plain rfl))
    (hpair (by decide) (.plain rfl) (.plain rfl)), ?_⟩
  have hkeys : (Table.keys nameFirstRows).Perm (Table.keys innerFirstRows) := by decide
  apply Reordered.table hkeys
  intro key value other hvalue hother
  have hmem := (Table.mem_iff_get? (keysDiffer_table hgiven).1 key value).mpr hvalue
  rcases List.mem_cons.mp hmem with hrow | hrow
  · obtain ⟨rfl, rfl⟩ := Prod.mk.inj hrow
    cases hother
    exact .of_perm (.swap ..) hname
  · obtain ⟨rfl, rfl⟩ := Prod.mk.inj (List.mem_singleton.mp hrow)
    cases hother
    exact .of_perm (.swap ..) hinner

/-- A table that was given for nothing stays as it was given, in either order. The unknown key stops
the merge behind the number or before it. -/
theorem mergeRows_reordered_bothWays :
    (∃ merged merged' : Rows, mergeRows [] nestedDefaults nameFirstRows = (merged, none) ∧
      mergeRows [] nestedDefaults innerFirstRows = (merged', none) ∧
      Reordered (.table merged) (.table merged')) ∧
    ∃ merged fault merged' fault',
      mergeRows [] nestedDefaults unknownLastRows = (merged, some fault) ∧
      mergeRows [] nestedDefaults unknownLastRows.reverse = (merged', some fault') := by
  constructor
  · obtain ⟨hgiven, hother, hsame⟩ := reordered_nameFirstRows
    rcases mergeRows_reordered keysDiffer_nestedDefaults hgiven hother hsame [] with h | h
    · obtain ⟨merged, merged', hmerged, hmerged', -, hresult⟩ := h
      exact ⟨merged, merged', hmerged, hmerged', hresult⟩
    · obtain ⟨merged, fault, merged', fault', hmerged, -⟩ := h
      cases hmerged
  · have hplain (rows : Rows) (hrow : ∀ row ∈ rows, Toml.hasParts row.2 = false)
        (hkeys : rows.keys.Nodup) : KeysDiffer (.table rows) :=
      .table hkeys fun row hmem => .plain (hrow row hmem)
    have hgiven := hplain unknownLastRows (by decide) (by decide)
    have hother := hplain unknownLastRows.reverse (by decide) (by decide)
    have hsame := Reordered.of_perm (List.reverse_perm unknownLastRows).symm hgiven
    rcases mergeRows_reordered keysDiffer_nestedDefaults hgiven hother hsame [] with h | h
    · obtain ⟨merged, merged', hmerged, -⟩ := h
      cases hmerged
    · exact h

end Settings

end HelpText
