import HelpText.Proofs.Settings.Merge
import HelpText.Proofs.Toml.Keys
import Mathlib.Data.List.Induction

/-!
A merge as overriding. A table of given values fits a table of defaults if each of its keys has a
default and each of its values may stand for that default. Main statement: a merge ends without a
fault exactly if the given table fits; it leaves the table of defaults overridden by all that was
given or, at the first entry that does not fit, by all that was given before.
-/

namespace HelpText

namespace Settings

open Toml (KeysDiffer keysDiffer_table)

/-- A value of one kind may stand for a default of another: a boolean is an integer, a date with a
time is a date. -/
def Kind.StandsFor (found expected : Kind) : Prop :=
  found = expected ∨ (found = .boolean ∧ expected = .integer) ∨
    (found = .dateTime ∧ expected = .date)

instance (found expected : Kind) : Decidable (found.StandsFor expected) :=
  inferInstanceAs (Decidable (_ ∨ _))

theorem Kind.accepts_iff {expected found : Kind} :
    expected.accepts found = true ↔ found.StandsFor expected := by
  rw [accepts, StandsFor]
  simp only [Bool.or_eq_true, Bool.and_eq_true, beq_iff_eq]
  tauto

/-- The value fits the default. -/
inductive Conforms : Value → Value → Prop
  /-- A default without a value takes anything. -/
  | null (value : Value) : Conforms .null value
  | plain {current value : Value} (hplain : current.kind ≠ .table)
      (h : value.kind.StandsFor current.kind) : Conforms current value
  /-- In a table each key has its default, which its value fits. -/
  | table {base given : Rows} (hkeys : ∀ row ∈ given, row.1 ∈ base.keys)
      (hvalues : ∀ row ∈ given, ∀ current, base.get? row.1 = some current →
        Conforms current row.2) : Conforms (.table base) (.table given)

mutual

/-- What a value makes of the default that it fits. -/
def Value.overriddenBy : Value → Value → Value
  | .table base, .table given => .table (overriddenRows base given)
  | _, value => value

/-- What becomes of the default in a row: it stays, unless a value is given for its key. -/
def overriddenRow : Text × Value → Rows → Value
  | (key, current), given =>
    match given.get? key with
    | none => current
    | some value => current.overriddenBy value

/-- Every key in its place, with what becomes of its default. -/
def overriddenRows : List (Text × Value) → Rows → Rows
  | [], _ => []
  | row :: rest, given => (row.1, overriddenRow row given) :: overriddenRows rest given

end

/-- The value does not fit, whatever may be in it. -/
def Misfit : Option Value → Value → Prop
  | none, _ => True
  | some (.table _), value => value.kind ≠ .table
  | some current, value => current.kind ≠ .null ∧ ¬ value.kind.StandsFor current.kind

/-- What is said of a value that does not fit its default, or for which there is no default. -/
def misfitFault (dotted : Text) : Option Value → Value → MergeFault
  | none, _ => .unknownKey dotted
  | some (.table _), value => .notTable dotted value.kind
  | some current, value => .wrongKind current.kind dotted value.kind

/-- The first given entry, depth first, that does not fit: the keys that lead to it, its default if
there is one, the value given, and all that is given before it. -/
inductive FirstMisfit : Rows → Rows → List Text → Option Value → Value → Rows → Prop
  | here {base earlier later : Rows} {key : Text} {value : Value}
      (hearlier : Conforms (.table base) (.table earlier)) (h : Misfit (base.get? key) value) :
      FirstMisfit base (earlier ++ (key, value) :: later) [key] (base.get? key) value earlier
  | inside {base earlier later inner given before : Rows} {key : Text} {keys : List Text}
      {current : Option Value} {value : Value}
      (hearlier : Conforms (.table base) (.table earlier))
      (hinner : base.get? key = some (.table inner))
      (h : FirstMisfit inner given keys current value before) :
      FirstMisfit base (earlier ++ (key, .table given) :: later) (key :: keys) current value
        (earlier ++ [(key, .table before)])

section Overriding

variable {base given earlier later : Rows} {key path dotted : Text} {current value : Value}

@[simp] theorem keys_overriddenRows (base given : Rows) :
    (overriddenRows base given).keys = base.keys := by
  induction base with
  | nil => rfl
  | cons row rest ih =>
    rw [overriddenRows]
    exact congrArg (row.1 :: ·) ih

/-- A key keeps its default, or has it overridden by the value that is given. -/
theorem get?_overriddenRows (base given : Rows) (key : Text) :
    (overriddenRows base given).get? key = (base.get? key).map fun current =>
      match given.get? key with
      | none => current
      | some value => current.overriddenBy value := by
  induction base with
  | nil => rfl
  | cons row rest ih =>
    obtain ⟨other, old⟩ := row
    rw [overriddenRows, overriddenRow, Table.get?, Table.get?]
    by_cases h : key = other
    · subst h
      rw [if_pos rfl, if_pos rfl]
      rfl
    · rw [if_neg h, if_neg h, ih]

theorem overriddenRows_nil (base : Rows) : overriddenRows base [] = base := by
  induction base with
  | nil => rfl
  | cons row rest ih =>
    obtain ⟨key, current⟩ := row
    rw [overriddenRows, overriddenRow, ih]
    rfl

theorem overriddenBy_of_ne_table (h : current.kind ≠ .table) :
    current.overriddenBy value = value := by
  cases current with
  | table => exact absurd rfl h
  | _ => rw [Value.overriddenBy]; simp

/-- One more value overrides its own default, as the table already stands. -/
theorem overriddenRows_concat (hbase : base.keys.Nodup) (hkey : key ∉ Table.keys earlier)
    (hcurrent : base.get? key = some current) :
    overriddenRows base (earlier ++ [(key, value)]) =
      (overriddenRows base earlier).put key (current.overriddenBy value) := by
  refine Table.ext_of_keys (by rwa [keys_overriddenRows]) ?_ ?_
  · rw [Table.keys_put, keys_overriddenRows, keys_overriddenRows,
      if_pos ((Table.mem_keys_iff _ _).mpr (hcurrent ▸ rfl))]
  · intro other
    rw [Table.get?_put, get?_overriddenRows, get?_overriddenRows, Table.get?_append]
    by_cases h : other = key
    · subst h
      simp [hcurrent, Table.get?_eq_none.mpr hkey, Table.get?]
    · simp [h, Table.get?]

theorem get?_overriddenRows_of_notMem (hkey : key ∉ Table.keys earlier) :
    (overriddenRows base earlier).get? key = base.get? key := by
  rw [get?_overriddenRows, Table.get?_eq_none.mpr hkey]
  exact Option.map_id' ..

theorem conforms_table_iff :
    Conforms (.table base) (.table given) ↔ (∀ row ∈ given, row.1 ∈ base.keys) ∧
      ∀ row ∈ given, ∀ current, base.get? row.1 = some current → Conforms current row.2 := by
  constructor
  · intro h
    cases h with
    | plain hplain => exact absurd rfl hplain
    | table hkeys hvalues => exact ⟨hkeys, hvalues⟩
  · rintro ⟨hkeys, hvalues⟩
    exact .table hkeys hvalues

theorem mergeRows_append {merged : Rows} (h : mergeRows path base earlier = (merged, none)) :
    mergeRows path base (earlier ++ later) = mergeRows path merged later := by
  induction earlier generalizing base with
  | nil =>
    rw [mergeRows] at h
    cases h
    rfl
  | cons row rest ih =>
    rw [List.cons_append, mergeRows]
    rw [mergeRows] at h
    rcases hrow : mergeRow path base row with ⟨next, fault⟩
    rw [hrow] at h
    cases fault with
    | some fault => cases h
    | none => exact ih h

/-- Rows whose values are merged without a fault override their defaults one after the other. -/
theorem mergeRows_of_values (path : Text) (hbase : base.keys.Nodup) (hgiven : given.keys.Nodup)
    (hkeys : ∀ row ∈ given, row.1 ∈ base.keys)
    (hvalues : ∀ row ∈ given, ∀ current, base.get? row.1 = some current → ∀ dotted,
      mergeValue dotted current row.2 = (current.overriddenBy row.2, none)) :
    mergeRows path base given = (overriddenRows base given, none) := by
  induction given using List.reverseRecOn with
  | nil => rw [mergeRows, overriddenRows_nil]
  | append_singleton earlier row ih =>
    obtain ⟨key, value⟩ := row
    rw [Table.keys, List.map_append, List.nodup_append] at hgiven
    obtain ⟨hearlier, -, hdiffer⟩ := hgiven
    have hkey : key ∉ Table.keys earlier := fun hmem => hdiffer key hmem key (by simp) rfl
    have hlast : (key, value) ∈ earlier ++ [(key, value)] := by simp
    obtain ⟨current, hcurrent⟩ :=
      Option.isSome_iff_exists.mp ((Table.mem_keys_iff base key).mp (hkeys _ hlast))
    have hmerged := ih hearlier (fun row hrow => hkeys row (List.mem_append_left _ hrow))
      fun row hrow => hvalues row (List.mem_append_left _ hrow)
    rw [mergeRows_append hmerged, mergeRows, mergeRow, get?_overriddenRows_of_notMem hkey,
      hcurrent]
    dsimp only
    rw [hvalues _ hlast current hcurrent, overriddenRows_concat hbase hkey hcurrent]
    exact mergeRows.eq_1 ..

theorem mergeValue_null (dotted : Text) (value : Value) :
    mergeValue dotted .null value = (value, none) := by
  cases value <;> rw [mergeValue] <;> simp

/-- A default that is no table and has a value takes what may stand for it. -/
theorem mergeValue_of_kind (hplain : current.kind ≠ .table) (hnull : current.kind ≠ .null) :
    mergeValue dotted current value =
      if current.kind.accepts value.kind then (value, none)
      else (current, some (.wrongKind current.kind dotted value.kind)) := by
  have htable : ∀ inner, current = .table inner → False := fun inner heq => hplain (heq ▸ rfl)
  have hnone : current = .null → False := fun heq => hnull (heq ▸ rfl)
  by_cases hvalue : ∃ rows, value = .table rows
  · obtain ⟨rows, rfl⟩ := hvalue
    have hrefused : ¬ current.kind.accepts .table = true := by
      rw [Kind.accepts_iff, Kind.StandsFor]
      simp [hplain.symm]
    rw [mergeValue.eq_3 _ _ _ htable hnone, Value.kind, if_neg hrefused]
  · exact mergeValue.eq_6 _ _ _ (fun rows heq => hvalue ⟨rows, heq⟩) htable hnone

theorem mergeValue_of_conforms (h : Conforms current value) (hcurrent : KeysDiffer current)
    (hvalue : KeysDiffer value) (dotted : Text) :
    mergeValue dotted current value = (current.overriddenBy value, none) := by
  induction h generalizing dotted with
  | null value => rw [mergeValue_null, overriddenBy_of_ne_table (by simp [Value.kind])]
  | plain hplain h =>
    rename_i current value
    rw [overriddenBy_of_ne_table hplain]
    by_cases hnull : current.kind = .null
    · obtain rfl : current = .null := by cases current <;> first | rfl | cases hnull
      exact mergeValue_null dotted value
    · rw [mergeValue_of_kind hplain hnull, if_pos (Kind.accepts_iff.mpr h)]
  | @table base given hkeys hvalues ih =>
    obtain ⟨hbase, -⟩ := keysDiffer_table hcurrent
    obtain ⟨hgiven, hrows⟩ := keysDiffer_table hvalue
    have hmerged := mergeRows_of_values (dotted ++ ['.']) hbase hgiven hkeys
      fun row hrow current hget => ih row hrow current hget
        (Toml.keysDiffer_of_get? hcurrent hget) (hrows row hrow)
    rw [mergeValue, hmerged, Value.overriddenBy]

theorem mergeRows_of_conforms (h : Conforms (.table base) (.table given))
    (hbase : KeysDiffer (.table base)) (hgiven : KeysDiffer (.table given)) (path : Text) :
    mergeRows path base given = (overriddenRows base given, none) := by
  obtain ⟨hkeys, hvalues⟩ := conforms_table_iff.mp h
  obtain ⟨hdiffer, hrows⟩ := keysDiffer_table hgiven
  exact mergeRows_of_values path (keysDiffer_table hbase).1 hdiffer hkeys
    fun row hrow current hget => mergeValue_of_conforms (hvalues row hrow current hget)
      (Toml.keysDiffer_of_get? hbase hget) (hrows row hrow)

theorem mergeValue_of_misfit (h : Misfit (some current) value) (dotted : Text) :
    mergeValue dotted current value =
      (current, some (misfitFault dotted (some current) value)) := by
  by_cases htable : ∃ inner, current = .table inner
  · obtain ⟨inner, rfl⟩ := htable
    have hvalue : ∀ rows, value = .table rows → False := fun rows heq => h (heq ▸ rfl)
    exact mergeValue.eq_4 _ _ _ hvalue
  · have hplain : current.kind ≠ .table := by
      intro hkind
      cases current <;> cases hkind
      exact htable ⟨_, rfl⟩
    obtain ⟨hnull, hkind⟩ : current.kind ≠ .null ∧ ¬ value.kind.StandsFor current.kind := by
      cases current <;> first | exact h | exact absurd rfl hplain
    rw [mergeValue_of_kind hplain hnull, if_neg (fun hkind' => hkind (Kind.accepts_iff.mp hkind'))]
    cases current <;> first | rfl | exact absurd rfl hplain

/-- A row that does not fit leaves the table as it is. -/
theorem mergeRow_of_misfit (h : Misfit (base.get? key) value) (path : Text) :
    mergeRow path base (key, value) =
      (base, some (misfitFault (path ++ key) (base.get? key) value)) := by
  rw [mergeRow]
  cases hget : base.get? key with
  | none => rfl
  | some current =>
    rw [hget] at h
    dsimp only
    rw [mergeValue_of_misfit h, Table.put_self hget]

theorem FirstMisfit.keys_ne_nil {keys : List Text} {found : Option Value} {before : Rows}
    (h : FirstMisfit base given keys found value before) : keys ≠ [] := by
  cases h <;> exact List.cons_ne_nil _ _

/-- Of a table whose keys differ, a part: its keys differ, and from those behind it. -/
theorem keysDiffer_of_append {row : Text × Value}
    (h : KeysDiffer (.table (earlier ++ row :: later))) :
    KeysDiffer (.table earlier) ∧ row.1 ∉ Table.keys earlier ∧ KeysDiffer row.2 := by
  obtain ⟨hkeys, hrows⟩ := keysDiffer_table h
  rw [Table.keys, List.map_append, List.map_cons, List.nodup_append] at hkeys
  obtain ⟨hearlier, -, hdiffer⟩ := hkeys
  refine ⟨.table hearlier fun row hrow => hrows row (List.mem_append_left _ hrow), ?_, ?_⟩
  · intro hmem
    exact hdiffer _ hmem _ (List.mem_cons_self ..) rfl
  · exact hrows row (by simp)

/-- A merge goes as far as the first entry that does not fit. -/
theorem mergeRows_of_firstMisfit {keys : List Text} {found : Option Value} {before : Rows}
    (h : FirstMisfit base given keys found value before) (hbase : KeysDiffer (.table base))
    (hgiven : KeysDiffer (.table given)) (path : Text) :
    mergeRows path base given = (overriddenRows base before,
      some (misfitFault (path ++ Text.join ['.'] keys) found value)) := by
  induction h generalizing path with
  | @here base earlier later key value hearlier h =>
    obtain ⟨hdiffer, hkey, -⟩ := keysDiffer_of_append hgiven
    rw [mergeRows_append (mergeRows_of_conforms hearlier hbase hdiffer path), mergeRows,
      ← get?_overriddenRows_of_notMem hkey, mergeRow_of_misfit]
    · rfl
    · rwa [get?_overriddenRows_of_notMem hkey]
  | @inside base earlier later inner given before key keys current value hearlier hinner h ih =>
    obtain ⟨hdiffer, hkey, hvalue⟩ := keysDiffer_of_append hgiven
    have hmerged := ih (Toml.keysDiffer_of_get? hbase hinner) hvalue (path ++ key ++ ['.'])
    rw [mergeRows_append (mergeRows_of_conforms hearlier hbase hdiffer path), mergeRows,
      mergeRow, get?_overriddenRows_of_notMem hkey, hinner]
    dsimp only
    rw [mergeValue, hmerged, overriddenRows_concat (keysDiffer_table hbase).1 hkey hinner,
      Value.overriddenBy, Text.join_cons_of_ne_nil _ _ h.keys_ne_nil]
    simp

/-- The first misfit of a table with one more row in front that fits. -/
theorem FirstMisfit.cons {keys : List Text} {found : Option Value} {before : Rows}
    {row : Text × Value} (h : FirstMisfit base given keys found value before)
    (hkey : row.1 ∈ base.keys)
    (hvalue : ∀ current, base.get? row.1 = some current → Conforms current row.2) :
    FirstMisfit base (row :: given) keys found value (row :: before) := by
  have hmore {earlier : Rows} (hearlier : Conforms (.table base) (.table earlier)) :
      Conforms (.table base) (.table (row :: earlier)) := by
    obtain ⟨hkeys, hvalues⟩ := conforms_table_iff.mp hearlier
    exact .table (List.forall_mem_cons.mpr ⟨hkey, hkeys⟩)
      (List.forall_mem_cons.mpr ⟨hvalue, hvalues⟩)
  cases h with
  | here hearlier h => exact .here (hmore hearlier) h
  | inside hearlier hinner h => exact .inside (hmore hearlier) hinner h

theorem misfit_of_not_table {inner : Rows} (h : ∀ rows, value ≠ .table rows) :
    Misfit (some (.table inner)) value := by
  intro hkind
  cases value <;> cases hkind
  exact h _ rfl

theorem conforms_or_misfit_of_plain (hplain : ∀ rows, current ≠ .table rows) :
    Conforms current value ∨ Misfit (some current) value := by
  have hkind : current.kind ≠ .table := by
    intro hkind
    cases current <;> cases hkind
    exact hplain _ rfl
  by_cases hstands : value.kind.StandsFor current.kind
  · exact Or.inl (.plain hkind hstands)
  · cases current with
    | null => exact Or.inl (.null value)
    | table rows => exact absurd rfl (hplain rows)
    | _ => exact Or.inr ⟨by simp [Value.kind], hstands⟩

mutual

/-- A value fits its default, or does not by itself, or has an entry in it that does not. -/
theorem conforms_or_misfit (value : Value) (current : Value) :
    Conforms current value ∨ Misfit (some current) value ∨
      ∃ base given, current = .table base ∧ value = .table given ∧
        ∃ keys found other before, FirstMisfit base given keys found other before := by
  by_cases htable : ∃ base, current = .table base
  · obtain ⟨base, rfl⟩ := htable
    match value with
    | .table given =>
      rcases conforms_or_firstMisfit given base with h | h
      · exact Or.inl h
      · exact Or.inr (Or.inr ⟨base, given, rfl, rfl, h⟩)
    | .null | .boolean _ | .integer _ | .float _ | .text _ | .array _ | .dateTime _ | .date _
    | .time _ => exact Or.inr (Or.inl (misfit_of_not_table nofun))
  · rcases conforms_or_misfit_of_plain fun base heq => htable ⟨base, heq⟩ with h | h
    · exact Or.inl h
    · exact Or.inr (Or.inl h)

/-- A table fits the defaults, or there is a first entry in it that does not. -/
theorem conforms_or_firstMisfit (given : List (Text × Value)) (base : Rows) :
    Conforms (.table base) (.table given) ∨
      ∃ keys found value before, FirstMisfit base given keys found value before := by
  match given with
  | [] => exact Or.inl (.table (by simp) (by simp))
  | (key, value) :: rest =>
    have hempty : Conforms (.table base) (.table []) := .table (by simp) (by simp)
    cases hget : base.get? key with
    | none => exact Or.inr ⟨_, _, _, _, .here hempty (by rw [hget]; trivial)⟩
    | some current =>
      rcases conforms_or_misfit value current with h | h | ⟨inner, given, rfl, rfl, h⟩
      · have hkey : key ∈ base.keys := (Table.mem_keys_iff base key).mpr (hget ▸ rfl)
        have hvalue : ∀ other, base.get? key = some other → Conforms other value := by
          intro other hother
          rw [hget] at hother
          cases hother
          exact h
        rcases conforms_or_firstMisfit rest base with hrest | ⟨keys, found, other, before, hrest⟩
        · obtain ⟨hkeys, hvalues⟩ := conforms_table_iff.mp hrest
          exact Or.inl (.table (List.forall_mem_cons.mpr ⟨hkey, hkeys⟩)
            (List.forall_mem_cons.mpr ⟨hvalue, hvalues⟩))
        · exact Or.inr ⟨keys, found, other, _, hrest.cons hkey hvalue⟩
      · exact Or.inr ⟨_, _, _, _, .here hempty (by rwa [hget])⟩
      · obtain ⟨keys, found, other, before, h⟩ := h
        exact Or.inr ⟨_, found, other, _, .inside hempty hget h⟩

end

theorem quoted_infix {front opening closing back : Text} (dotted : Text)
    (hopening : opening = front ++ ['\'']) (hclosing : closing = ['\''] ++ back) (tail : Text) :
    ['\''] ++ dotted ++ ['\''] <:+: opening ++ dotted ++ closing ++ tail := by
  subst hopening hclosing
  exact ⟨front, back ++ tail, by simp⟩

/-- The message has the key in quotes. -/
theorem misfitFault_names (dotted : Text) (found : Option Value) (value : Value) :
    ['\''] ++ dotted ++ ['\''] <:+: (misfitFault dotted found value).message := by
  have hfound : Text.of "', found " = ['\''] ++ Text.of ", found " := by decide
  match found with
  | none =>
    have hfront : Text.of "Unknown configuration key '" =
      Text.of "Unknown configuration key " ++ ['\''] := by decide
    have hback : Text.of "'." = ['\''] ++ ['.'] := by decide
    have h := quoted_infix dotted hfront hback []
    rwa [List.append_nil] at h
  | some current =>
    by_cases htable : ∃ rows, current = .table rows
    · obtain ⟨rows, rfl⟩ := htable
      have hfront : Text.of "Expected table for '" = Text.of "Expected table for " ++ ['\''] := by
        decide
      have h := quoted_infix dotted hfront hfound (value.kind.word ++ ['.'])
      rwa [← List.append_assoc] at h
    · rw [misfitFault.eq_3 _ _ _ fun rows heq => htable ⟨rows, heq⟩]
      have hfor : Text.of " for '" = Text.of " for " ++ ['\''] := by decide
      have hfront := (congrArg (Text.of "Expected " ++ current.kind.word ++ ·) hfor).trans
        (List.append_assoc ..).symm
      have h := quoted_infix dotted hfront hfound (value.kind.word ++ ['.'])
      rwa [← List.append_assoc] at h

/-- Rows that were merged without a fault fit, and what they leave is the overridden table. -/
theorem conforms_of_mergeRows {merged : Rows} (hbase : KeysDiffer (.table base))
    (hgiven : KeysDiffer (.table given)) (h : mergeRows path base given = (merged, none)) :
    Conforms (.table base) (.table given) ∧ merged = overriddenRows base given := by
  rcases conforms_or_firstMisfit given base with hfits | ⟨keys, found, value, before, hmisfit⟩
  · rw [mergeRows_of_conforms hfits hbase hgiven] at h
    exact ⟨hfits, (congrArg Prod.fst h).symm⟩
  · rw [mergeRows_of_firstMisfit hmisfit hbase hgiven] at h
    cases h

/-- Rows that do not fit are not merged without a fault. -/
theorem mergeRows_of_not_conforms (hbase : KeysDiffer (.table base))
    (hgiven : KeysDiffer (.table given)) (h : ¬Conforms (.table base) (.table given))
    (path : Text) : ∃ merged fault, mergeRows path base given = (merged, some fault) := by
  obtain ⟨keys, found, value, before, hmisfit⟩ :=
    (conforms_or_firstMisfit given base).resolve_left h
  exact ⟨_, _, mergeRows_of_firstMisfit hmisfit hbase hgiven path⟩

/-- Merging given rows into defaults is overriding the defaults, as far as what is given fits. There
is no fault exactly if all of it fits. The defaults keep their keys, in their order. The first entry
that does not fit, depth first, is named by the keys that lead to it; then the defaults are
overridden by what is given before it, and by nothing else. -/
theorem mergeRows_overrides (hbase : KeysDiffer (.table base))
    (hgiven : KeysDiffer (.table given)) (path : Text) :
    ((mergeRows path base given).2 = none ↔ Conforms (.table base) (.table given)) ∧
      (mergeRows path base given).1.keys = base.keys ∧
      (Conforms (.table base) (.table given) →
        mergeRows path base given = (overriddenRows base given, none)) ∧
      (¬ Conforms (.table base) (.table given) →
        ∃ keys found value before, FirstMisfit base given keys found value before) ∧
      ∀ keys found value before, FirstMisfit base given keys found value before →
        ∃ fault, mergeRows path base given = (overriddenRows base before, some fault) ∧
          fault = misfitFault (path ++ Text.join ['.'] keys) found value ∧
          ['\''] ++ (path ++ Text.join ['.'] keys) ++ ['\''] <:+: fault.message := by
  have hfits (h : Conforms (.table base) (.table given)) :=
    mergeRows_of_conforms h hbase hgiven path
  have hstops {keys : List Text} {found : Option Value} {value : Value} {before : Rows}
      (h : FirstMisfit base given keys found value before) :=
    mergeRows_of_firstMisfit h hbase hgiven path
  have hcases := conforms_or_firstMisfit given base
  refine ⟨⟨?_, fun h => by rw [hfits h]⟩, ?_, hfits, hcases.resolve_left, ?_⟩
  · intro hnone
    rcases hcases with h | ⟨keys, found, value, before, h⟩
    · exact h
    · rw [hstops h] at hnone
      cases hnone
  · rcases hcases with h | ⟨keys, found, value, before, h⟩
    · rw [hfits h, keys_overriddenRows]
    · rw [hstops h, keys_overriddenRows]
  · intro keys found value before h
    exact ⟨_, hstops h, rfl, misfitFault_names ..⟩

end Overriding

/-- Defaults with a number, a key without a value, and a table. -/
def nestedDefaults : Rows :=
  [(Text.of "count", .integer 1), (Text.of "name", .null),
    (Text.of "inner", .table [(Text.of "on", .boolean true), (Text.of "size", .integer 2)])]

/-- A boolean for a number, a table for nothing, and one value in the inner table. -/
def fittingRows : Rows :=
  [(Text.of "inner", .table [(Text.of "size", .integer 5)]), (Text.of "name", .table []),
    (Text.of "count", .boolean false)]

/-- In the inner table a number is given for a boolean, behind a value that fits. -/
def misfitRows : Rows :=
  [(Text.of "name", .text (.of "n")),
    (Text.of "inner", .table [(Text.of "size", .integer 5), (Text.of "on", .integer 1)]),
    (Text.of "count", .integer 7)]

/-- The number is overridden by the boolean, the inner table in part, and nothing stops the merge.
The rows that do not fit stop it inside the inner table, with the size changed. -/
theorem nestedDefaults_overridden :
    Conforms (.table nestedDefaults) (.table fittingRows) ∧
      mergeRows [] nestedDefaults fittingRows =
        ([(.of "count", .boolean false), (.of "name", .table []),
          (.of "inner", .table [(.of "on", .boolean true), (.of "size", .integer 5)])], none) ∧
      ¬ Conforms (.table nestedDefaults) (.table misfitRows) ∧
      mergeRows [] nestedDefaults misfitRows =
        ([(.of "count", .integer 1), (.of "name", .text (.of "n")),
          (.of "inner", .table [(.of "on", .boolean true), (.of "size", .integer 5)])],
          some (.wrongKind .boolean (.of "inner.on") .integer)) := by
  have hdefaults : KeysDiffer (.table nestedDefaults) := by
    refine .table (by decide) (List.forall_mem_cons.mpr ⟨.plain rfl, List.forall_mem_cons.mpr
      ⟨.plain rfl, List.forall_mem_singleton.mpr (.table (by decide) ?_)⟩⟩)
    exact List.forall_mem_cons.mpr ⟨.plain rfl, List.forall_mem_singleton.mpr (.plain rfl)⟩
  have hfitting : KeysDiffer (.table fittingRows) := by
    refine .table (by decide) (List.forall_mem_cons.mpr ⟨?_, List.forall_mem_cons.mpr
      ⟨Toml.keysDiffer_nil, List.forall_mem_singleton.mpr (.plain rfl)⟩⟩)
    exact .table (by decide) (List.forall_mem_singleton.mpr (.plain rfl))
  have hmisfit : KeysDiffer (.table misfitRows) := by
    refine .table (by decide) (List.forall_mem_cons.mpr ⟨.plain rfl, List.forall_mem_cons.mpr
      ⟨.table (by decide) ?_, List.forall_mem_singleton.mpr (.plain rfl)⟩⟩)
    exact List.forall_mem_cons.mpr ⟨.plain rfl, List.forall_mem_singleton.mpr (.plain rfl)⟩
  obtain ⟨hfits, -, hmerged, -⟩ := mergeRows_overrides hdefaults hfitting []
  obtain ⟨hfits', -, -, -, hstops⟩ := mergeRows_overrides hdefaults hmisfit []
  have hconforms := hfits.mp rfl
  refine ⟨hconforms, hmerged hconforms, ?_, ?_⟩
  · intro h
    cases hfits'.mpr h
  · have hname : Conforms (.table nestedDefaults) (.table [(.of "name", .text (.of "n"))]) := by
      refine .table (List.forall_mem_singleton.mpr (by decide))
        (List.forall_mem_singleton.mpr fun current hcurrent => ?_)
      cases hcurrent
      exact .null _
    have hsize : Conforms (.table [(.of "on", .boolean true), (.of "size", .integer 2)])
        (.table [(.of "size", .integer 5)]) := by
      refine .table (List.forall_mem_singleton.mpr (by decide))
        (List.forall_mem_singleton.mpr fun current hcurrent => ?_)
      cases hcurrent
      exact .plain (by decide) (Or.inl rfl)
    have hfirst : FirstMisfit nestedDefaults misfitRows [.of "inner", .of "on"]
        (some (.boolean true)) (.integer 1)
        [(.of "name", .text (.of "n")), (.of "inner", .table [(.of "size", .integer 5)])] :=
      .inside hname rfl (.here hsize ⟨by decide, by decide⟩)
    obtain ⟨fault, hmerged, rfl, -⟩ := hstops _ _ _ _ hfirst
    exact hmerged

end Settings

end HelpText
