import HelpText.Proofs.Settings.Merge
import HelpText.Proofs.Toml.Keys
import HelpText.Settings.Basic

/-!
The keys of a settings file. After a merge without a fault each setting is what the file holds for
its key, and the default where the file holds nothing.
-/

namespace HelpText

namespace Settings

/-- What can be set in a settings file. -/
inductive Key where
  | full
  | license
  | sort
  | strictNames
  | outputName
  | extension
  | logLevel
  | logFile
  deriving DecidableEq, Repr

namespace Key

/-- The table that the key belongs to. -/
def table : Key → Text
  | .logLevel | .logFile => loggingTable
  | _ => generationTable

/-- The key as it is spelt in its table. -/
def word : Key → Text
  | .full => .of "full"
  | .license => .of "license"
  | .sort => .of "sort"
  | .strictNames => .of "strict_names"
  | .outputName => .of "output_name"
  | .extension => .of "extension"
  | .logLevel => .of "level"
  | .logFile => .of "file"

def default : Key → Value
  | .full => .boolean false
  | .license => .null
  | .sort => .boolean true
  | .strictNames => .boolean false
  | .outputName => .text (.of "docs.go")
  | .extension => .text (.of ".md")
  | .logLevel => .text (.of "INFO")
  | .logFile => .null

/-- The value of the key in merged rows. -/
def valueIn (key : Key) (merged : Rows) : Value := setting merged key.table key.word

/-- What rows that are to be merged hold for the key. -/
def heldIn (key : Key) (rows : Rows) : Option Value :=
  match rows.get? key.table with
  | some (.table inner) => Table.get? inner key.word
  | _ => none

/-- The default of every key stands in the table of the key, and is no table itself. -/
theorem default_spec (key : Key) : ∃ inner, defaults.get? key.table = some (.table inner) ∧
    Table.get? inner key.word = some key.default ∧ key.default.kind ≠ .table := by
  cases key <;> exact ⟨_, rfl, rfl, by decide⟩

theorem accepts_default_iff (key : Key) (kind : Kind) :
    key.default.kind = .null ∨ key.default.kind.accepts kind = true ↔
      key.default.kind = .null ∨ kind = key.default.kind := by
  cases key <;> cases kind <;> decide

end Key

theorem valueIn_of_get? {key : Key} {merged inner : Rows} {value : Value}
    (h : merged.get? key.table = some (.table inner))
    (hinner : Table.get? inner key.word = some value) : key.valueIn merged = value := by
  rw [Key.valueIn, setting, h]
  simp only [hinner, Option.getD_some]

/-- After a merge without a fault a key has the value that was given for it, which is of the kind of
its default, or else its default. -/
theorem valueIn_merged {rows merged : Rows} (hkeys : Toml.KeysDiffer (.table rows))
    (h : mergeRows [] defaults rows = (merged, none)) (key : Key) :
    key.valueIn merged = (key.heldIn rows).getD key.default ∧
      ∀ value, key.heldIn rows = some value →
        key.default.kind = .null ∨ value.kind = key.default.kind := by
  obtain ⟨inner, htable, hdefault, hplain⟩ := key.default_spec
  have hmerged := merged_of_mergeRows (Toml.keysDiffer_table hkeys).1 h
  cases hgiven : rows.get? key.table with
  | none =>
    have hheld : key.heldIn rows = none := by rw [Key.heldIn, hgiven]
    have hkept := hmerged.kept key.table hgiven
    rw [hheld]
    refine ⟨valueIn_of_get? (hkept.trans htable) hdefault, ?_⟩
    intro value hvalue
    cases hvalue
  | some given =>
    obtain ⟨current, hcurrent, hfault, hchanged⟩ := hmerged.changed key.table given hgiven
    cases htable.symm.trans hcurrent
    obtain ⟨items, result, rfl, hinner, hresult⟩ := mergeValue_of_table hfault
    rw [hresult] at hchanged
    have hitems := merged_of_mergeRows
      (Toml.keysDiffer_table (Toml.keysDiffer_of_get? hkeys hgiven)).1 hinner
    have hheld : key.heldIn rows = Table.get? items key.word := by rw [Key.heldIn, hgiven]
    rw [hheld]
    cases hitem : Table.get? items key.word with
    | none =>
      have hkept := hitems.kept key.word hitem
      refine ⟨valueIn_of_get? hchanged (hkept.trans hdefault), ?_⟩
      intro value hvalue
      cases hvalue
    | some value =>
      obtain ⟨old, hold, hnone, hput⟩ := hitems.changed key.word value hitem
      cases hdefault.symm.trans hold
      obtain ⟨hvalue, hkind⟩ := mergeValue_of_plain hplain hnone
      refine ⟨valueIn_of_get? hchanged (hvalue ▸ hput), ?_⟩
      intro other hother
      cases hother
      exact (key.accepts_default_iff value.kind).mp hkind

end Settings

end HelpText
