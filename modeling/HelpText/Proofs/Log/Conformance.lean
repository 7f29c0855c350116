import HelpText.Proofs.Json.Refusal
import HelpText.Proofs.Log.Line

/-!
Which lines are JSON. Main statement: a record gets a line exactly if its message can be formatted
and its integers can be written, and the line is one JSON object exactly if every floating-point
number among its extra values is finite, at any depth.
-/

namespace HelpText

namespace Log

open Json (Readable ItemsReadable MembersReadable)

namespace Value

mutual

/-- Whether all floating-point numbers in a value are finite. A mapping is shown as its text, so
that nothing in it counts as a number. -/
def AllFinite : Value → Prop
  | .float x => x.IsFinite
  | .list items => ItemsFinite items
  | .tuple items => ItemsFinite items
  | _ => True

def ItemsFinite : List Value → Prop
  | [] => True
  | item :: rest => AllFinite item ∧ ItemsFinite rest

end

mutual

theorem readable_toJson_iff : (value : Value) → (Readable value.toJson ↔ value.AllFinite)
  | .null => Iff.rfl
  | .boolean _ => Iff.rfl
  | .integer _ => Iff.rfl
  | .float x => Json.readableFloat_iff x
  | .text _ => Iff.rfl
  | .path _ => Iff.rfl
  | .list items => readable_itemsJson_iff items
  | .tuple items => readable_itemsJson_iff items
  | .mapping _ => Iff.rfl

theorem readable_itemsJson_iff :
    (items : List Value) → (ItemsReadable (itemsJson items) ↔ ItemsFinite items)
  | [] => Iff.rfl
  | item :: rest => and_congr (readable_toJson_iff item) (readable_itemsJson_iff rest)

end

theorem readable_rows_iff (rows : List (Text × Value)) :
    MembersReadable (rows.map fun (key, value) => (key, value.toJson)) ↔
      ∀ row ∈ rows, row.2.AllFinite := by
  induction rows with
  | nil => simp [MembersReadable]
  | cons row rest ih =>
    rw [List.forall_mem_cons, ← ih, ← readable_toJson_iff]
    rfl

end Value

namespace Record

/-- A record without the extra values that are not shown. -/
def shown (record : Record) : Record := { record with extra := record.shownExtra }

/-- What is not shown makes no difference. -/
theorem json_shown (record : Record) : record.shown.json = record.json := by
  have hextra : record.shown.shownExtra = record.shownExtra := by
    simp [shown, shownExtra, List.filter_filter]
  rw [json, json, hextra]
  rfl

variable {record : Record} {time : DateTime}

theorem json_of_message {message : RawText} (htime : timestamp record.created = .ok time)
    (hmessage : record.message = .ok message)
    (hwritable : Value.rowsWritable record.shownExtra = true) :
    record.json = .ok (.object (record.shown.lineMembers time message)) := by
  have hkeys : ∀ row ∈ record.shown.extra, row.1 ∉ ownKeys := by
    intro row hrow
    exact of_decide_eq_true (List.mem_filter.mp hrow).2
  rw [← json_shown]
  exact json_eq htime hmessage hkeys hwritable

/-- In time, nothing but its message and its integers can keep a record from being written. -/
theorem line_eq_ok_iff (htime : timestamp record.created = .ok time) (line : Text) :
    record.line = .ok line ↔
      ∃ message, record.message = .ok message ∧ Value.rowsWritable record.shownExtra = true ∧
        line = Json.text (.object (record.shown.lineMembers time message)) := by
  constructor
  · intro h
    cases hmessage : record.message with
    | error fault =>
      rw [Record.line, json, htime, hmessage] at h
      cases h
    | ok message =>
      by_cases hwritable : Value.rowsWritable record.shownExtra = true
      · rw [Record.line, json_of_message htime hmessage hwritable] at h
        exact ⟨message, rfl, hwritable, (Except.ok.inj h).symm⟩
      · rw [Record.line, json, htime, hmessage] at h
        change Except.map _ (if _ then _ else _) = _ at h
        rw [if_neg hwritable] at h
        cases h
  · rintro ⟨message, hmessage, hwritable, rfl⟩
    rw [Record.line, json_of_message htime hmessage hwritable]
    rfl

/-- All members but the extra ones are strings, which can be read. -/
theorem readable_lineMembers_iff (record : Record) (time : DateTime) (message : RawText) :
    MembersReadable (record.lineMembers time message) ↔ ∀ row ∈ record.extra, row.2.AllFinite := by
  have hthrown : MembersReadable record.thrownMembers := by
    rw [thrownMembers]
    split
    · exact ⟨trivial, trivial⟩
    · trivial
  have hmembers : MembersReadable (record.lineMembers time message) ↔
      MembersReadable (record.extraMembers ++ record.thrownMembers) := by
    simp [lineMembers, MembersReadable, Json.MemberReadable, Readable]
  rw [hmembers, extraMembers]
  split
  · next hnone => simp [hnone, hthrown]
  · rw [← Value.readable_rows_iff]
    constructor
    · intro h
      exact h.1
    · intro h
      exact ⟨h, hthrown⟩

/-- A record of the calendar gets a line exactly if its message can be formatted and its integers
can be written; and the line is one JSON object, or else no JSON at all, as its numbers are finite
or not. -/
theorem line_conforms_iff (htime : record.InCalendar) :
    ((∃ line, record.line = .ok line) ↔
      (∃ message, record.message = .ok message) ∧
        Value.rowsWritable record.shownExtra = true) ∧
      ∀ line, record.line = .ok line →
        ((∃ members, Json.Reader.read? line = some (.object members)) ↔
          ∀ row ∈ record.shownExtra, row.2.AllFinite) ∧
        (Json.Reader.read? line = none ↔ ∃ row ∈ record.shownExtra, ¬row.2.AllFinite) := by
  obtain ⟨time, htime⟩ := timestamp_ok htime
  constructor
  · constructor
    · rintro ⟨line, hline⟩
      obtain ⟨message, hmessage, hwritable, -⟩ := (line_eq_ok_iff htime line).mp hline
      exact ⟨⟨message, hmessage⟩, hwritable⟩
    · rintro ⟨⟨message, hmessage⟩, hwritable⟩
      exact ⟨_, (line_eq_ok_iff htime _).mpr ⟨message, hmessage, hwritable, rfl⟩⟩
  · intro line hline
    obtain ⟨message, -, -, rfl⟩ := (line_eq_ok_iff htime line).mp hline
    -- The extra values of the record as it is shown are those that it shows.
    have hfinite : Readable (.object (record.shown.lineMembers time message)) ↔
        ∀ row ∈ record.shownExtra, row.2.AllFinite := readable_lineMembers_iff _ _ _
    have hnone := Json.read?_text_eq_none_iff (.object (record.shown.lineMembers time message))
    constructor
    · rw [← hfinite]
      constructor
      · rintro ⟨members, hread⟩
        by_contra hnot
        rw [hnone.mpr hnot] at hread
        cases hread
      · intro hreadable
        exact ⟨_, Json.read?_text hreadable⟩
    · rw [hnone, hfinite]
      simp only [not_forall, exists_prop]

/-- Numbers of every finite kind, at any depth, one that is not finite inside a mapping, and one
under a key that is not shown. -/
def measured : Record where
  level := 20
  template := .of "x"
  extra := [
    (.of "sizes", .tuple [.float (.finite true 0 0), .list [.float (.finite false 1 (-1074))],
      .float (.finite false 5 50), .float (.finite true 3 (-1))]),
    (.of "seen", .mapping [(.of "ratio", .float .notANumber)]),
    (.of "lineno", .float (.infinite true))]
  logger := .of "a"
  created := .finite false 3400000001 (-1)

theorem line_conforms_iff_measured :
    measured.InCalendar ∧
      ∃ line members, measured.line = .ok line ∧
        Json.Reader.read? line = some (.object members) := by
  have htime : measured.InCalendar :=
    ⟨false, 3400000001, -1, rfl, by decide +kernel, by decide +kernel⟩
  obtain ⟨hwritten, hconforms⟩ := line_conforms_iff htime
  obtain ⟨line, hline⟩ := hwritten.mpr ⟨⟨_, rfl⟩, rfl⟩
  have hfinite : ∀ row ∈ measured.shownExtra, row.2.AllFinite := by
    -- The last extra value has a key that records have for themselves.
    intro row hrow
    rcases List.mem_cons.mp (show row ∈ measured.extra.take 2 from hrow) with rfl | hrow
    · exact ⟨trivial, ⟨trivial, trivial⟩, trivial, trivial, trivial⟩
    · obtain rfl := List.mem_singleton.mp hrow
      trivial
  obtain ⟨members, hread⟩ := (hconforms line hline).1.mpr hfinite
  exact ⟨htime, line, members, hline, hread⟩

/-- A ratio that is no number, inside a list. -/
def unmeasured : Record where
  level := 20
  template := .of "x"
  extra := [(.of "ratios", .list [.integer 1, .float .notANumber])]
  logger := .of "mdtogo"
  created := .finite false 6800000001 (-2)

/-- A number among the extra values is passed on as it is, and the line of such a record is no
JSON. -/
theorem line_of_notANumber :
    unmeasured.InCalendar ∧
      ∃ line, unmeasured.line = .ok line ∧ Json.Reader.read? line = none :=
  ⟨⟨false, 6800000001, -2, rfl, by decide +kernel, by decide +kernel⟩, _, rfl, by decide +kernel⟩

end Record

end Log

end HelpText
