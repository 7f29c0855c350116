import HelpText.Generation
import Mathlib.Data.List.Basic
import Mathlib.Data.List.Induction
import Mathlib.Data.List.Nodup

/-!
The names that several files give. Main statement: there are none exactly if all names differ.
-/

namespace HelpText

namespace Generation

/-- The files that give `name`. -/
def filesOf (pairs : List (Text × Text)) (name : Text) : List Text :=
  pairs.filterMap fun pair => if pair.1 = name then some pair.2 else none

theorem length_filesOf (pairs : List (Text × Text)) (name : Text) :
    (filesOf pairs name).length = (pairs.map Prod.fst).count name := by
  induction pairs with
  | nil => rfl
  | cons pair pairs ih =>
    unfold filesOf at ih ⊢
    by_cases h : pair.1 = name <;> simp [h, ih]

/-- The table of files after these pairs. -/
def gathered (pairs : List (Text × Text)) : Table Text (List Text) :=
  pairs.foldl (fun table item => table.put item.1 ((table.get? item.1).getD [] ++ [item.2])) []

theorem gathered_concat (pairs : List (Text × Text)) (pair : Text × Text) :
    gathered (pairs ++ [pair]) =
      (gathered pairs).put pair.1 (((gathered pairs).get? pair.1).getD [] ++ [pair.2]) := by
  simp only [gathered, List.foldl_append, List.foldl_cons, List.foldl_nil]

theorem nodup_keys_gathered (pairs : List (Text × Text)) : (gathered pairs).keys.Nodup := by
  induction pairs using List.reverseRecOn with
  | nil => exact List.nodup_nil
  | append_singleton pairs pair ih =>
    rw [gathered_concat]
    exact Table.nodup_keys_put _ _ ih

/-- Under each name stand the files that give it, in order. -/
theorem get?_gathered (pairs : List (Text × Text)) (name : Text) :
    (gathered pairs).get? name =
      if filesOf pairs name = [] then none else some (filesOf pairs name) := by
  induction pairs using List.reverseRecOn with
  | nil => rfl
  | append_singleton pairs pair ih =>
    have hfiles : filesOf (pairs ++ [pair]) name =
        filesOf pairs name ++ if pair.1 = name then [pair.2] else [] := by
      rw [filesOf, List.filterMap_append]
      by_cases h : pair.1 = name <;> simp [h, filesOf]
    rw [gathered_concat, Table.get?_put, hfiles]
    by_cases h : name = pair.1
    · subst h
      have hbefore : ((gathered pairs).get? pair.1).getD [] = filesOf pairs pair.1 := by
        rw [ih]
        split
        · next hnone => rw [hnone, Option.getD_none]
        · rfl
      simp [hbefore]
    · rw [if_neg h, if_neg (Ne.symm h), ih, List.append_nil]

/-- A further name comes last, unless it has come before. -/
theorem eraseDups_concat (names : List Text) (name : Text) :
    (names ++ [name]).eraseDups =
      if name ∈ names then names.eraseDups else names.eraseDups ++ [name] := by
  rw [List.eraseDups_append]
  by_cases h : name ∈ names
  · simp [List.removeAll, h]
  · simp [List.removeAll, h, List.eraseDups_cons]

theorem keys_gathered (pairs : List (Text × Text)) :
    (gathered pairs).keys = (pairs.map Prod.fst).eraseDups := by
  induction pairs using List.reverseRecOn with
  | nil => rfl
  | append_singleton pairs pair ih =>
    rw [gathered_concat, Table.keys_put, ih, List.map_append, List.map_singleton,
      eraseDups_concat]
    simp only [List.mem_eraseDups]

/-- The names stand in the order in which they first appear. -/
theorem gathered_eq (pairs : List (Text × Text)) :
    gathered pairs = (pairs.map Prod.fst).eraseDups.map fun name => (name, filesOf pairs name) := by
  have hnames (names : List Text) (name : Text) :
      Table.get? (names.map fun name => (name, filesOf pairs name)) name =
        if name ∈ names then some (filesOf pairs name) else none := by
    induction names with
    | nil => rfl
    | cons first rest ih =>
      rw [List.map_cons, Table.get?, ih]
      by_cases h : name = first <;> simp [h]
  refine Table.ext_of_keys (nodup_keys_gathered pairs) ?_ fun name => ?_
  · rw [keys_gathered, Table.keys, List.map_map]
    exact (List.map_id _).symm
  · have hmem : name ∈ pairs.map Prod.fst ↔ filesOf pairs name ≠ [] := by
      rw [← List.count_pos_iff, ← length_filesOf, List.length_pos_iff]
    rw [get?_gathered, hnames]
    by_cases h : filesOf pairs name = []
    · rw [if_pos h, if_neg (by rw [List.mem_eraseDups, hmem]; exact not_not_intro h)]
    · rw [if_neg h, if_pos (by rw [List.mem_eraseDups, hmem]; exact h)]

/-- Of two lists only the pairs count: what one of them has beyond the other gives nothing. -/
theorem collisions_zip (names filenames : List Text) :
    let pairs := names.zip filenames
    collisions names filenames =
      ((pairs.map Prod.fst).eraseDups.filter fun name => 1 < (pairs.map Prod.fst).count name).map
        fun name => (name, filesOf pairs name) := by
  intro pairs
  change (gathered pairs).filter _ = _
  rw [gathered_eq, List.filter_map]
  congr 1
  apply List.filter_congr
  intro name _
  rw [Function.comp_apply, length_filesOf]

theorem collisions_zip_eq_nil_iff (names filenames : List Text) :
    collisions names filenames = [] ↔ ((names.zip filenames).map Prod.fst).Nodup := by
  rw [collisions_zip, List.map_eq_nil_iff, List.filter_eq_nil_iff, List.nodup_iff_count_le_one]
  simp only [List.mem_eraseDups, decide_eq_true_eq, Nat.not_lt]
  constructor
  · intro h name
    by_cases hname : name ∈ (names.zip filenames).map Prod.fst
    · exact h name hname
    · rw [List.count_eq_zero_of_not_mem hname]
      exact Nat.zero_le 1
  · exact fun h name _ => h name

theorem collisions_eq (names filenames : List Text) (hlength : names.length = filenames.length) :
    collisions names filenames = (names.eraseDups.filter fun name => 1 < names.count name).map
      fun name => (name, filesOf (names.zip filenames) name) := by
  rw [collisions_zip, List.map_fst_zip (Nat.le_of_eq hlength)]

theorem collisions_eq_nil_iff (names filenames : List Text)
    (hlength : names.length = filenames.length) :
    collisions names filenames = [] ↔ names.Nodup := by
  rw [collisions_zip_eq_nil_iff, List.map_fst_zip (Nat.le_of_eq hlength)]

end Generation

end HelpText
