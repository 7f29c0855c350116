/-!
Tables that keep their keys in the order of first insertion. Main statements: what a table holds
after `put` and after `keepKeys`, and which keys it has.
-/

namespace HelpText

/-- A table from keys to values. -/
abbrev Table (κ ν : Type) := List (κ × ν)

namespace Table

variable {κ ν : Type} [DecidableEq κ]

def get? : Table κ ν → κ → Option ν
  | [], _ => none
  | (other, value) :: rest, key => if key = other then some value else get? rest key

/-- Gives `key` this value: in its place if the table has the key, behind all others if not. -/
def put (key : κ) (value : ν) : Table κ ν → Table κ ν
  | [] => [(key, value)]
  | (other, old) :: rest =>
    if key = other then (key, value) :: rest else (other, old) :: put key value rest

def keepKeys (p : κ → Bool) (t : Table κ ν) : Table κ ν := t.filter fun row => p row.1

def keys (t : Table κ ν) : List κ := t.map Prod.fst

/-- The table of these rows; of several rows with one key the last value stays. -/
def ofRows (rows : List (κ × ν)) : Table κ ν := rows.foldl (fun t row => put row.1 row.2 t) []

theorem get?_put (key other : κ) (value : ν) (t : Table κ ν) :
    (put key value t).get? other = if other = key then some value else t.get? other := by
  induction t with
  | nil => rfl
  | cons row rest ih =>
    obtain ⟨k, v⟩ := row
    by_cases h : key = k
    · subst h
      by_cases ho : other = key <;> simp [put, get?, ho]
    · by_cases ho : other = key
      · subst ho
        simp [put, get?, h, ih]
      · by_cases hk : other = k
        · subst hk; simp [put, get?, h, ho]
        · simp [put, get?, h, hk, ho, ih]

/-- Of several values given to a key the last one counts. -/
theorem put_put (key : κ) (first second : ν) (t : Table κ ν) :
    put key second (put key first t) = put key second t := by
  induction t with
  | nil => simp [put]
  | cons row rest ih =>
    obtain ⟨k, v⟩ := row
    by_cases h : key = k
    · simp [put, h]
    · simp [put, h, ih]

/-- Giving a key the value that it has changes nothing. -/
theorem put_self {key : κ} {value : ν} {t : Table κ ν} (h : t.get? key = some value) :
    put key value t = t := by
  induction t with
  | nil => cases h
  | cons row rest ih =>
    obtain ⟨k, v⟩ := row
    by_cases hk : key = k
    · subst hk
      rw [get?, if_pos rfl] at h
      rw [put, if_pos rfl, Option.some.inj h]
    · rw [get?, if_neg hk] at h
      rw [put, if_neg hk, ih h]

theorem get?_keepKeys (p : κ → Bool) (t : Table κ ν) (key : κ) :
    (t.keepKeys p).get? key = if p key then t.get? key else none := by
  induction t with
  | nil => simp [keepKeys, get?]
  | cons row rest ih =>
    obtain ⟨k, v⟩ := row
    unfold keepKeys at ih ⊢
    by_cases hk : p k = true
    · rw [List.filter_cons_of_pos (by simpa using hk)]
      by_cases h : key = k
      · subst h; simp [get?, hk]
      · simp [get?, h, ih]
    · rw [List.filter_cons_of_neg (by simpa using hk), ih]
      by_cases h : key = k
      · subst h; simp [hk]
      · simp [get?, h]

/-- A value for a key that is not kept makes no difference. -/
theorem keepKeys_put (p : κ → Bool) (key : κ) (value : ν) (t : Table κ ν) :
    (put key value t).keepKeys p =
      if p key then put key value (t.keepKeys p) else t.keepKeys p := by
  induction t with
  | nil => by_cases hp : p key = true <;> simp [put, keepKeys, hp]
  | cons row rest ih =>
    obtain ⟨k, v⟩ := row
    unfold keepKeys at ih ⊢
    by_cases h : key = k
    · subst h
      by_cases hp : p key = true <;> simp [put, hp]
    · by_cases hk : p k = true
      · by_cases hp : p key = true <;> simp [put, h, hk, hp, ih]
      · by_cases hp : p key = true <;> simp [put, h, hk, hp, ih]

/-- A table has a key exactly if it holds a value for it. -/
theorem mem_keys_iff (t : Table κ ν) (key : κ) : key ∈ t.keys ↔ (t.get? key).isSome := by
  induction t with
  | nil => simp [keys, get?]
  | cons row rest ih =>
    obtain ⟨k, v⟩ := row
    by_cases h : key = k
    · simp [keys, get?, h]
    · have hk : key ∈ keys ((k, v) :: rest) ↔ key ∈ keys rest := by simp [keys, h]
      rw [hk, ih, get?, if_neg h]

/-- A new key comes behind the keys there are; an old one leaves them as they are. -/
theorem keys_put (key : κ) (value : ν) (t : Table κ ν) :
    (put key value t).keys = if key ∈ t.keys then t.keys else t.keys ++ [key] := by
  induction t with
  | nil => simp [put, keys]
  | cons row rest ih =>
    obtain ⟨k, v⟩ := row
    unfold keys at ih ⊢
    by_cases h : key = k
    · subst h; simp [put]
    · by_cases hm : key ∈ rest.map Prod.fst <;> simp [put, h, ih, hm]

/-- Keys stay different from each other. -/
theorem nodup_keys_put (key : κ) (value : ν) {t : Table κ ν} (h : t.keys.Nodup) :
    (put key value t).keys.Nodup := by
  rw [keys_put]
  split
  · exact h
  · next hkey =>
    rw [List.nodup_append]
    refine ⟨h, by simp, fun other hother last hlast => ?_⟩
    rintro rfl
    exact hkey (List.mem_singleton.mp hlast ▸ hother)

/-- With its keys different from each other, a table holds the rows that are found by key. -/
theorem mem_iff_get? {t : Table κ ν} (h : t.keys.Nodup) (key : κ) (value : ν) :
    (key, value) ∈ t ↔ t.get? key = some value := by
  induction t with
  | nil => simp [get?]
  | cons row rest ih =>
    obtain ⟨k, v⟩ := row
    obtain ⟨hk, hrest⟩ := List.nodup_cons.mp h
    have hnot (hkey : key = k) (w : ν) : (key, w) ∉ rest := by
      intro hmem
      exact hk (hkey ▸ List.mem_map.mpr ⟨(key, w), hmem, rfl⟩)
    by_cases hkey : key = k
    · subst hkey
      simp [get?, hnot rfl, eq_comm]
    · simp [get?, hkey, ih hrest]

theorem get?_append (first second : Table κ ν) (key : κ) :
    get? (first ++ second) key = (get? first key).or (get? second key) := by
  induction first with
  | nil => rfl
  | cons row rest ih =>
    obtain ⟨other, value⟩ := row
    rw [List.cons_append, get?, get?, ih]
    split <;> rfl

theorem get?_eq_none {t : Table κ ν} {key : κ} : t.get? key = none ↔ key ∉ t.keys := by
  rw [mem_keys_iff, Option.not_isSome_iff_eq_none]

/-- Two tables are one if they have the same keys in one order, and every key holds the same. -/
theorem ext_of_keys {first second : Table κ ν} (hnodup : first.keys.Nodup)
    (hkeys : first.keys = second.keys) (h : ∀ key, first.get? key = second.get? key) :
    first = second := by
  induction first generalizing second with
  | nil => exact (List.map_eq_nil_iff.mp hkeys.symm).symm
  | cons row rest ih =>
    obtain ⟨key, value⟩ := row
    obtain ⟨hkey, hnodup⟩ := List.nodup_cons.mp hnodup
    cases second with
    | nil => cases hkeys
    | cons row' rest' =>
      obtain ⟨key', value'⟩ := row'
      obtain ⟨heq, hrest⟩ := List.cons.inj hkeys
      obtain rfl : key = key' := heq
      have hvalue : value = value' := by simpa [get?] using h key
      have hother (other : κ) : get? rest other = get? rest' other := by
        by_cases ho : other = key
        · rw [ho, get?_eq_none.mpr hkey, get?_eq_none.mpr]
          rw [← show keys rest = keys rest' from hrest]
          exact hkey
        · simpa [get?, ho] using h other
      rw [hvalue, ih hnodup hrest hother]

end Table

end HelpText
