import HelpText.Toml.Reader
import Mathlib.Data.List.Basic

/-!
The keys of a document that was read. Rows are added to a table under new keys only, or in the place
of an old row. Main statement: no table of a document, however deep it lies, has a key twice.
-/

namespace HelpText

/-- What holds of the result, if there is one. -/
def Yields {ε α : Type} (p : α → Prop) (result : Except ε α) : Prop := ∀ a, result = .ok a → p a

namespace Yields

variable {ε α β : Type} {p : α → Prop} {q : β → Prop}

theorem ok {a : α} (h : p a) : Yields p (.ok a : Except ε α) := by
  intro b hb
  cases hb
  exact h

theorem error (fault : ε) : Yields p (.error fault : Except ε α) := by
  intro a ha
  cases ha

theorem trivially (result : Except ε α) : Yields (fun _ => True) result := fun _ _ => trivial

theorem bind {first : Except ε α} {next : α → Except ε β} (h : Yields p first)
    (hnext : ∀ a, p a → Yields q (next a)) : Yields q (first >>= next) := by
  cases first with
  | error fault => exact error fault
  | ok a => exact hnext a (h a rfl)

theorem map {first : Except ε α} {f : α → β} (h : Yields p first) (hf : ∀ a, p a → q (f a)) :
    Yields q (first.map f) := by
  cases first with
  | error fault => exact error fault
  | ok a => exact ok (hf a (h a rfl))

end Yields

theorem Table.mem_put {κ ν : Type} [DecidableEq κ] {key : κ} {value : ν} {t : Table κ ν}
    {row : κ × ν} (h : row ∈ Table.put key value t) : row = (key, value) ∨ row ∈ t := by
  induction t with
  | nil => exact Or.inl (List.mem_singleton.mp h)
  | cons first rest ih =>
    obtain ⟨other, old⟩ := first
    rw [Table.put] at h
    split at h
    · rcases List.mem_cons.mp h with h | h
      · exact Or.inl h
      · exact Or.inr (List.mem_cons_of_mem _ h)
    · rcases List.mem_cons.mp h with h | h
      · exact Or.inr (h ▸ List.mem_cons_self ..)
      · rcases ih h with h | h
        · exact Or.inl h
        · exact Or.inr (List.mem_cons_of_mem _ h)

namespace Toml

open Settings (Value Rows)

/-- No table in a value has a key twice. -/
inductive KeysDiffer : Value → Prop
  | plain {value : Value} (h : hasParts value = false) : KeysDiffer value
  | array {items : List Value} (h : ∀ item ∈ items, KeysDiffer item) : KeysDiffer (.array items)
  | table {rows : Rows} (hkeys : rows.keys.Nodup) (h : ∀ row ∈ rows, KeysDiffer row.2) :
      KeysDiffer (.table rows)

theorem keysDiffer_array {items : List Value} (h : KeysDiffer (.array items)) :
    ∀ item ∈ items, KeysDiffer item := by
  cases h with
  | plain h => cases h
  | array h => exact h

theorem keysDiffer_table {rows : Rows} (h : KeysDiffer (.table rows)) :
    rows.keys.Nodup ∧ ∀ row ∈ rows, KeysDiffer row.2 := by
  cases h with
  | plain h => cases h
  | table hkeys h => exact ⟨hkeys, h⟩

theorem keysDiffer_nil : KeysDiffer (.table []) := .table (by simp [Table.keys]) (by simp)

theorem keysDiffer_put {rows : Rows} {key : Text} {value : Value} (h : KeysDiffer (.table rows))
    (hvalue : KeysDiffer value) : KeysDiffer (.table (rows.put key value)) := by
  obtain ⟨hkeys, hrows⟩ := keysDiffer_table h
  refine .table (Table.nodup_keys_put key value hkeys) ?_
  intro row hrow
  rcases Table.mem_put hrow with heq | hrow
  · rw [heq]
    exact hvalue
  · exact hrows row hrow

theorem keysDiffer_of_get? {rows : Rows} {key : Text} {value : Value}
    (h : KeysDiffer (.table rows)) (hget : rows.get? key = some value) : KeysDiffer value := by
  obtain ⟨hkeys, hrows⟩ := keysDiffer_table h
  exact hrows (key, value) ((Table.mem_iff_get? hkeys key value).mpr hget)

/-- A change that keeps the keys apart in the table it is made for. -/
def KeepsApart (change : Rows → Except Fault Rows) : Prop :=
  ∀ rows : Rows, KeysDiffer (.table rows) →
    Yields (fun changed : Rows => KeysDiffer (.table changed)) (change rows)

theorem addRow_keepsApart (key : Text) {value : Value} (h : KeysDiffer value) :
    KeepsApart (addRow key value) := by
  intro rows hrows
  rw [addRow]
  split
  · exact .error _
  · exact .ok (keysDiffer_put hrows h)

theorem appendTable_keepsApart (key : Text) : KeepsApart (appendTable key) := by
  intro rows hrows
  rw [appendTable]
  split
  · refine .ok (keysDiffer_put hrows (.array ?_))
    intro item hitem
    rw [List.mem_singleton.mp hitem]
    exact keysDiffer_nil
  · next items hget =>
    refine .ok (keysDiffer_put hrows (.array ?_))
    intro item hitem
    rcases List.mem_append.mp hitem with hitem | hitem
    · exact keysDiffer_array (keysDiffer_of_get? hrows hget) item hitem
    · rw [List.mem_singleton.mp hitem]
      exact keysDiffer_nil
  · exact .error _

/-- Along the way to the table that is changed each table gets one row anew. -/
theorem within_keepsApart (enterArrays : Bool) {change : Rows → Except Fault Rows}
    (h : KeepsApart change) (path : Key) : KeepsApart (within enterArrays change path) := by
  intro rows hrows
  fun_induction within enterArrays change path rows with
  | case1 rows => exact h rows hrows
  | case2 key path rows _ ih =>
    exact (ih keysDiffer_nil).map fun _ hinner => keysDiffer_put hrows hinner
  | case3 key path rows inner hget ih =>
    have hinner := keysDiffer_of_get? hrows hget
    exact (ih hinner).map fun _ hchanged => keysDiffer_put hrows hchanged
  | case4 key path rows items hget inner hlast harrays ih =>
    subst harrays
    have hitems := keysDiffer_array (keysDiffer_of_get? hrows hget)
    have hinner := hitems _ (List.mem_of_getLast? hlast)
    refine Yields.map (q := fun rows : Rows => KeysDiffer (.table rows)) (ih hinner) ?_
    intro changed hchanged
    refine keysDiffer_put hrows (.array ?_)
    intro item hitem
    rcases List.mem_append.mp hitem with hitem | hitem
    · exact hitems item (List.dropLast_subset _ hitem)
    · rw [List.mem_singleton.mp hitem]
      exact hchanged
  | case5 => exact .error _
  | case6 => exact .error _

theorem hasParts_of_boolean? {t : Text} {reading : Value × Text} (h : boolean? t = some reading) :
    hasParts reading.1 = false := by
  rw [boolean?.eq_def] at h
  split at h <;> cases h <;> rfl

theorem hasParts_of_dateValue? {t : Text} {reading : Reading Value}
    (h : dateValue? t = some reading) :
    Yields (fun reading => hasParts reading.1 = false) reading := by
  obtain ⟨⟨date, rest⟩, -, rfl⟩ := Option.map_eq_some_iff.mp h
  dsimp only
  split
  · exact .error _
  · split
    · exact .ok rfl
    · split <;> exact .ok rfl

theorem hasParts_of_basedInteger? {t : Text} {reading : Value × Text}
    (h : basedInteger? t = some reading) : hasParts reading.1 = false := by
  rw [basedInteger?.eq_def] at h
  split at h
  · simp only [Option.bind_eq_bind, Option.bind_eq_some_iff] at h
    obtain ⟨base, -, ⟨digits, rest⟩, -, hreading⟩ := h
    cases hreading
    rfl
  · cases h

theorem hasParts_of_decimalNumber? {t : Text} {reading : Reading Value}
    (h : decimalNumber? t = some reading) :
    Yields (fun reading => hasParts reading.1 = false) reading := by
  rw [decimalNumber?] at h
  simp only [Option.bind_eq_bind, Option.bind_eq_some_iff] at h
  obtain ⟨⟨whole, rest⟩, -, h⟩ := h
  dsimp only at h
  split at h
  · split at h
    · cases h
      exact .error _
    · cases h
      exact .ok rfl
  · obtain ⟨x, -, rfl⟩ := Option.map_eq_some_iff.mp h
    exact .ok rfl

theorem hasParts_of_specialFloat? {t : Text} {reading : Value × Text}
    (h : specialFloat? t = some reading) : hasParts reading.1 = false := by
  rw [specialFloat?] at h
  dsimp only at h
  split at h
  · obtain ⟨x, -, rfl⟩ := Option.map_eq_some_iff.mp h
    rfl
  · cases h

/-- Booleans, dates, times and numbers have no parts. -/
theorem scalar_keysDiffer (t : Text) : Yields (fun reading => KeysDiffer reading.1) (scalar t) := by
  rw [scalar]
  split
  · next h => exact .ok (.plain (hasParts_of_boolean? h))
  · split
    · next h => exact fun reading hr => .plain (hasParts_of_dateValue? h reading hr)
    · split
      · exact .ok (.plain rfl)
      · split
        · next h => exact .ok (.plain (hasParts_of_basedInteger? h))
        · split
          · next h => exact fun reading hr => .plain (hasParts_of_decimalNumber? h reading hr)
          · split
            · next h => exact .ok (.plain (hasParts_of_specialFloat? h))
            · exact .error _

theorem text_keysDiffer (reading : Reading Text) :
    Yields (fun reading => KeysDiffer reading.1)
      (reading.map fun (t, rest) => (Value.text t, rest)) :=
  (Yields.trivially reading).map fun _ _ => .plain rfl

/-- What is read with so much fuel keeps its keys apart. -/
structure ReadsApart (fuel : Nat) : Prop where
  value : ∀ t, Yields (fun reading => KeysDiffer reading.1) (value fuel t)
  items : ∀ t, Yields (fun reading => ∀ item ∈ reading.1, KeysDiffer item) (items fuel t)
  pairs : ∀ rows closed t, KeysDiffer (.table rows) →
    Yields (fun reading => KeysDiffer (.table reading.1)) (pairs fuel rows closed t)

theorem ReadsApart.zero : ReadsApart 0 where
  value _ := .error _
  items _ := .error _
  pairs _ _ _ _ := .error _

variable {fuel : Nat}

theorem ReadsApart.value_succ (h : ReadsApart fuel) (t : Text) :
    Yields (fun reading => KeysDiffer reading.1) (Toml.value (fuel + 1) t) := by
  rw [value.eq_def]
  dsimp only
  split
  · exact text_keysDiffer _
  · exact text_keysDiffer _
  · exact text_keysDiffer _
  · exact text_keysDiffer _
  · refine (Yields.trivially _).bind fun rest _ => ?_
    exact (h.items rest).bind fun _ hitems => .ok (.array hitems)
  · split
    · exact .ok keysDiffer_nil
    · exact (h.pairs _ _ _ keysDiffer_nil).bind fun _ hrows => .ok hrows
  · exact scalar_keysDiffer _

theorem ReadsApart.items_succ (h : ReadsApart fuel) (t : Text) :
    Yields (fun reading => ∀ item ∈ reading.1, KeysDiffer item) (Toml.items (fuel + 1) t) := by
  rw [items.eq_def]
  split
  · exact .error _
  · exact .ok (by simp)
  · next hfuel _ =>
    cases hfuel
    refine (h.value _).bind fun ⟨item, rest⟩ hitem => ?_
    refine (Yields.trivially _).bind fun rest _ => ?_
    split
    · exact .ok (by simpa using hitem)
    · refine (Yields.trivially _).bind fun rest _ => ?_
      refine (h.items _).bind fun ⟨more, rest⟩ hmore => .ok ?_
      intro other hother
      rcases List.mem_cons.mp hother with heq | hother
      · rw [heq]
        exact hitem
      · exact hmore other hother
    · exact .error _

theorem ReadsApart.pairs_succ (h : ReadsApart fuel) (rows : Rows) (closed : List Key) (t : Text)
    (hrows : KeysDiffer (.table rows)) :
    Yields (fun reading => KeysDiffer (.table reading.1))
      (Toml.pairs (fuel + 1) rows closed t) := by
  rw [Toml.pairs]
  refine (Yields.trivially (key t)).bind fun ⟨path, rest⟩ _ => ?_
  refine (Yields.trivially _).bind fun rest _ => ?_
  refine (h.value _).bind fun ⟨value, rest⟩ hvalue => ?_
  dsimp only
  split
  · exact .error _
  · have hadded := within_keepsApart false (addRow_keepsApart (path.getLastD []) hvalue)
      path.dropLast rows hrows
    refine hadded.bind fun rows hrows => ?_
    split
    · exact .ok hrows
    · exact h.pairs _ _ _ hrows
    · exact .error _

theorem readsApart (fuel : Nat) : ReadsApart fuel := by
  induction fuel with
  | zero => exact .zero
  | succ fuel ih => exact ⟨ih.value_succ, ih.items_succ, ih.pairs_succ⟩

/-- The keys are apart in the data that a reader has taken up. -/
def Reader.KeepsApart (reader : Reader) : Prop := KeysDiffer (.table reader.data)

theorem Reader.KeepsApart.pair {reader : Reader} (h : reader.KeepsApart) (t : Text) :
    Yields (fun reading => Reader.KeepsApart reading.1) (reader.pair t) := by
  rw [Reader.pair]
  refine (Yields.trivially (key t)).bind fun ⟨path, rest⟩ _ => ?_
  refine (Yields.trivially _).bind fun rest _ => ?_
  refine ((readsApart _).value _).bind fun ⟨value, rest⟩ hvalue => ?_
  dsimp only
  split
  · exact .error _
  · have hadded := within_keepsApart true (addRow_keepsApart (path.getLastD []) hvalue)
      (reader.header ++ path.dropLast) reader.data h
    exact hadded.bind fun data hdata => .ok hdata

theorem Reader.KeepsApart.tableHeader {reader : Reader} (h : reader.KeepsApart) (t : Text) :
    Yields (fun reading => Reader.KeepsApart reading.1) (reader.tableHeader t) := by
  rw [Reader.tableHeader]
  refine (Yields.trivially _).bind fun ⟨path, rest⟩ _ => ?_
  dsimp only
  split
  · exact .error _
  · have hentered := within_keepsApart true (fun rows hrows => .ok hrows) path reader.data h
    refine hentered.bind fun data hdata => ?_
    exact (Yields.trivially _).bind fun rest _ => .ok hdata

theorem Reader.KeepsApart.arrayHeader {reader : Reader} (h : reader.KeepsApart) (t : Text) :
    Yields (fun reading => Reader.KeepsApart reading.1) (reader.arrayHeader t) := by
  rw [Reader.arrayHeader]
  refine (Yields.trivially _).bind fun ⟨path, rest⟩ _ => ?_
  dsimp only
  split
  · exact .error _
  · have happended := within_keepsApart true (appendTable_keepsApart (path.getLastD []))
      path.dropLast reader.data h
    refine happended.bind fun data hdata => ?_
    refine (Yields.trivially _).bind fun rest _ => ?_
    exact (Yields.trivially _).bind fun rest _ => .ok hdata

theorem Reader.KeepsApart.endSection {reader : Reader} (h : reader.KeepsApart) :
    reader.endSection.KeepsApart := h

/-- Statement by statement the keys stay apart. -/
theorem Reader.KeepsApart.run (fuel : Nat) {reader : Reader} (h : reader.KeepsApart) (t : Text) :
    Yields (fun rows : Rows => KeysDiffer (.table rows)) (reader.run fuel t) := by
  induction fuel generalizing reader t with
  | zero => exact .error _
  | succ fuel ih =>
    rw [Reader.run]
    split
    · exact .ok h
    · exact ih h _
    · exact (Yields.trivially _).bind fun rest _ => ih h rest
    · refine (h.endSection.arrayHeader _).bind fun ⟨next, rest⟩ hnext => ?_
      exact (Yields.trivially _).bind fun rest _ => ih hnext rest
    · refine (h.endSection.tableHeader _).bind fun ⟨next, rest⟩ hnext => ?_
      exact (Yields.trivially _).bind fun rest _ => ih hnext rest
    · refine (h.pair _).bind fun ⟨next, rest⟩ hnext => ?_
      exact (Yields.trivially _).bind fun rest _ => ih hnext rest

theorem keysDiffer_of_read {t : Text} {rows : Rows} (h : read t = .ok rows) :
    KeysDiffer (.table rows) := by
  have hempty : ({} : Reader).KeepsApart := keysDiffer_nil
  exact hempty.run _ _ rows h

end Toml

end HelpText
