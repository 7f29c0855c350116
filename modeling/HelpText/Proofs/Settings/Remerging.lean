import HelpText.Proofs.Settings.Overriding

/-!
Merging once more. A value fits itself and leaves itself as it is, and so does a value that is given
for what it has already made of a default. Main statement: rows that were merged without a fault can
be merged into the result again, and change nothing there.
-/

namespace HelpText

namespace Settings

open Toml (KeysDiffer keysDiffer_table)

section Remerging

variable {base given : Rows} {current value : Value}

theorem exists_rows_of_kind (h : value.kind = .table) : ∃ rows : Rows, value = .table rows := by
  cases value <;> cases h
  exact ⟨_, rfl⟩

theorem kind_ne_table_of_plain (h : Toml.hasParts value = false) : value.kind ≠ .table := by
  intro hkind
  obtain ⟨rows, rfl⟩ := exists_rows_of_kind hkind
  cases h

theorem kind_array_ne_table (items : List Value) : (Value.array items).kind ≠ .table := by
  simp [Value.kind]

/-- A value that is no table takes the place of any default. -/
theorem overriddenBy_of_value_ne_table (h : value.kind ≠ .table) :
    current.overriddenBy value = value := by
  by_cases hcurrent : current.kind = .table
  · obtain ⟨base, rfl⟩ := exists_rows_of_kind hcurrent
    cases value with
    | table => exact absurd rfl h
    | _ => rw [Value.overriddenBy]; simp
  · exact overriddenBy_of_ne_table hcurrent

theorem conforms_self (h : KeysDiffer value) : Conforms value value := by
  induction h with
  | plain h => exact .plain (kind_ne_table_of_plain h) (Or.inl rfl)
  | array => exact .plain (kind_array_ne_table _) (Or.inl rfl)
  | @table rows hkeys h ih =>
    refine .table (fun row hrow => List.mem_map_of_mem hrow) ?_
    intro row hrow current hcurrent
    -- As the keys differ, what the table holds for the key of a row is the value in that row.
    have hheld := (Table.mem_iff_get? hkeys row.1 row.2).mp hrow
    obtain rfl : row.2 = current := Option.some.inj (hheld.symm.trans hcurrent)
    exact ih row hrow

theorem overriddenBy_self (h : KeysDiffer value) : value.overriddenBy value = value := by
  induction h with
  | plain h => exact overriddenBy_of_ne_table (kind_ne_table_of_plain h)
  | array => exact overriddenBy_of_ne_table (kind_array_ne_table _)
  | @table rows hkeys h ih =>
    rw [Value.overriddenBy]
    congr 1
    apply Table.ext_of_keys (by rwa [keys_overriddenRows]) (keys_overriddenRows rows rows)
    intro key
    rw [get?_overriddenRows]
    cases hget : rows.get? key with
    | none => rfl
    | some held =>
      have hrow := (Table.mem_iff_get? hkeys key held).mpr hget
      exact congrArg some (ih (key, held) hrow)

/-- Overriding puts no key twice into a table. -/
theorem keysDiffer_overriddenBy (hcurrent : KeysDiffer current) (hvalue : KeysDiffer value) :
    KeysDiffer (current.overriddenBy value) := by
  induction hcurrent generalizing value with
  | plain h => rwa [overriddenBy_of_ne_table (kind_ne_table_of_plain h)]
  | array => rwa [overriddenBy_of_ne_table (kind_array_ne_table _)]
  | @table base hkeys h ih =>
    by_cases hkind : value.kind = .table
    · obtain ⟨given, rfl⟩ := exists_rows_of_kind hkind
      rw [Value.overriddenBy]
      have hdiffer : (overriddenRows base given).keys.Nodup := by rwa [keys_overriddenRows]
      apply KeysDiffer.table hdiffer
      intro row hrow
      have hget := (Table.mem_iff_get? hdiffer row.1 row.2).mp hrow
      rw [get?_overriddenRows, Option.map_eq_some_iff] at hget
      obtain ⟨old, hold, hresult⟩ := hget
      have hmem := (Table.mem_iff_get? hkeys row.1 old).mpr hold
      rw [← hresult]
      cases hgiven : given.get? row.1 with
      | none => exact h (row.1, old) hmem
      | some held => exact ih (row.1, old) hmem (Toml.keysDiffer_of_get? hvalue hgiven)
    · rwa [overriddenBy_of_value_ne_table hkind]

/-- A value fits what it has made of a default. -/
theorem conforms_overriddenBy (h : Conforms current value) (hvalue : KeysDiffer value) :
    Conforms (current.overriddenBy value) value := by
  induction h with
  | null value =>
    -- What was given for nothing may be a table, which is now merged into itself.
    rw [overriddenBy_of_ne_table (by simp [Value.kind])]
    exact conforms_self hvalue
  | plain hplain h =>
    rw [overriddenBy_of_ne_table hplain]
    exact conforms_self hvalue
  | @table base given hkeys hvalues ih =>
    obtain ⟨hgiven, hrows⟩ := keysDiffer_table hvalue
    rw [Value.overriddenBy]
    apply Conforms.table
    · intro row hrow
      rw [keys_overriddenRows]
      exact hkeys row hrow
    · intro row hrow result hresult
      rw [get?_overriddenRows, (Table.mem_iff_get? hgiven row.1 row.2).mp hrow,
        Option.map_eq_some_iff] at hresult
      obtain ⟨old, hold, rfl⟩ := hresult
      exact ih row hrow old hold (hrows row hrow)

/-- Overriding twice by one value is overriding once. -/
theorem overriddenBy_overriddenBy (hcurrent : KeysDiffer current) (hvalue : KeysDiffer value) :
    (current.overriddenBy value).overriddenBy value = current.overriddenBy value := by
  induction hvalue generalizing current with
  | plain h =>
    have hkind := kind_ne_table_of_plain h
    rw [overriddenBy_of_value_ne_table hkind, overriddenBy_of_value_ne_table hkind]
  | @array items h ih =>
    have hkind := kind_array_ne_table items
    rw [overriddenBy_of_value_ne_table hkind, overriddenBy_of_value_ne_table hkind]
  | @table given hgiven hrows ih =>
    by_cases hkind : current.kind = .table
    · obtain ⟨base, rfl⟩ := exists_rows_of_kind hkind
      rw [Value.overriddenBy, Value.overriddenBy]
      congr 1
      apply Table.ext_of_keys
      · rw [keys_overriddenRows, keys_overriddenRows]
        exact (keysDiffer_table hcurrent).1
      · rw [keys_overriddenRows]
      · intro key
        rw [get?_overriddenRows, get?_overriddenRows, Option.map_map]
        cases hget : given.get? key with
        | none => rfl
        | some held =>
          have hmem := (Table.mem_iff_get? hgiven key held).mpr hget
          cases hold : base.get? key with
          | none => rfl
          | some old =>
            have hdiffer := Toml.keysDiffer_of_get? hcurrent hold
            exact congrArg some (ih (key, held) hmem hdiffer)
    · -- The default has become the table that was given.
      rw [overriddenBy_of_ne_table hkind]
      exact overriddenBy_self (.table hgiven hrows)

/-- Merging is idempotent: rows that were merged without a fault can be merged into the result
again, and leave it as it is. -/
theorem mergeRows_again {merged : Rows} (hbase : KeysDiffer (.table base))
    (hgiven : KeysDiffer (.table given)) (path again : Text)
    (h : mergeRows path base given = (merged, none)) :
    mergeRows again merged given = (merged, none) := by
  obtain ⟨hfits, rfl⟩ := conforms_of_mergeRows hbase hgiven h
  have hoverridden : (Value.table base).overriddenBy (.table given) =
      .table (overriddenRows base given) := by rw [Value.overriddenBy]
  have hdiffer : KeysDiffer (.table (overriddenRows base given)) :=
    hoverridden ▸ keysDiffer_overriddenBy hbase hgiven
  have hfitsAgain : Conforms (.table (overriddenRows base given)) (.table given) :=
    hoverridden ▸ conforms_overriddenBy hfits hgiven
  have hsame : overriddenRows (overriddenRows base given) given = overriddenRows base given := by
    have htwice := overriddenBy_overriddenBy hbase hgiven
    rw [hoverridden, Value.overriddenBy] at htwice
    exact Value.table.inj htwice
  rw [mergeRows_of_conforms hfitsAgain hdiffer hgiven, hsame]

end Remerging

theorem keysDiffer_nestedDefaults : KeysDiffer (.table nestedDefaults) := by
  refine .table (by decide) (List.forall_mem_cons.mpr ⟨.plain rfl, List.forall_mem_cons.mpr
    ⟨.plain rfl, List.forall_mem_singleton.mpr (.table (by decide) ?_)⟩⟩)
  exact List.forall_mem_cons.mpr ⟨.plain rfl, List.forall_mem_singleton.mpr (.plain rfl)⟩

/-- A boolean for a number, and for a key without a value a table that has a table in it. -/
def retypingRows : Rows :=
  [(Text.of "name", .table [(Text.of "first", .text (.of "n")),
      (Text.of "more", .table [(Text.of "rank", .integer 3)])]),
    (Text.of "count", .boolean false),
    (Text.of "inner", .table [(Text.of "size", .boolean true)])]

/-- The second merge meets a boolean where the number was, and tables where there was nothing. -/
theorem mergeRows_again_retyped :
    let merged : Rows := [(.of "count", .boolean false),
      (.of "name", .table [(.of "first", .text (.of "n")),
        (.of "more", .table [(.of "rank", .integer 3)])]),
      (.of "inner", .table [(.of "on", .boolean true), (.of "size", .boolean true)])]
    mergeRows [] nestedDefaults retypingRows = (merged, none) ∧
      mergeRows [] merged retypingRows = (merged, none) := by
  have hgiven : KeysDiffer (.table retypingRows) := by
    refine .table (by decide) (List.forall_mem_cons.mpr ⟨.table (by decide) ?_,
      List.forall_mem_cons.mpr ⟨.plain rfl, List.forall_mem_singleton.mpr (.table (by decide) ?_)⟩⟩)
    · refine List.forall_mem_cons.mpr ⟨.plain rfl, List.forall_mem_singleton.mpr ?_⟩
      exact .table (by decide) (List.forall_mem_singleton.mpr (.plain rfl))
    · exact List.forall_mem_singleton.mpr (.plain rfl)
  have hmerged := (rfl : mergeRows [] nestedDefaults retypingRows = _)
  exact ⟨hmerged, mergeRows_again keysDiffer_nestedDefaults hgiven [] [] hmerged⟩

end Settings

end HelpText
