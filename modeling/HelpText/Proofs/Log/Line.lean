import HelpText.Log.Record
import HelpText.Proofs.Json.Ascii
import HelpText.Proofs.Json.RoundTrip

/-!
The line of a record. Main statement: it is printable ASCII and, read as JSON, it gives the record
back, with tuples as arrays and paths as their texts.
-/

namespace HelpText

namespace Log

open Json (Content)

section Times

/-- From the first day of the year 1 to the last of the year 9999 a date has one of these years. -/
theorem year_civil {days : Int} (hfirst : -719162 ≤ days) (hlast : days ≤ 2932896) :
    1 ≤ (Date.civil days).1 ∧ (Date.civil days).1 ≤ 9999 := by
  have hcycleLength : (0 : Int) ≤ 146097 := by decide
  simp only [Date.civil, Date.daysToEpoch, Int.fdiv_eq_ediv_of_nonneg _ hcycleLength,
    Int.fmod_eq_emod_of_nonneg _ hcycleLength]
  generalize hshifted : days + 719468 = shifted
  generalize hcycle : shifted / 146097 = cycle
  generalize hday : (shifted % 146097).toNat = day
  generalize hyear : (day - day / 1460 + day / 36524 - day / 146096) / 365 = year
  generalize hofYear : day - (365 * year + year / 4 - year / 100) = dayOfYear
  generalize hmonth : (5 * dayOfYear + 2) / 153 = month
  -- Each of these facts needs few of the equations; with all of them `omega` takes long.
  have hcycles : 0 ≤ cycle ∧ cycle ≤ 24 := by
    clear hday hyear hofYear hmonth
    omega
  have hdays : day ≤ 146096 := by
    clear hcycle hyear hofYear hmonth
    omega
  have hyears : year ≤ 399 := by
    clear hcycle hday hofYear hmonth
    omega
  -- The days lie behind February of the year 0, where years are counted from March.
  have hearly : cycle = 0 → 306 ≤ day := by
    clear hyear hofYear hmonth
    omega
  have hstart : 306 ≤ day → year = 0 → 306 ≤ dayOfYear ∧ dayOfYear ≤ 365 := by
    clear hcycle hday hmonth
    omega
  -- They lie before January of the year 10000.
  have hlate : cycle = 24 → day ≤ 146036 := by
    clear hyear hofYear hmonth
    omega
  have hend : day ≤ 146036 → year = 399 → dayOfYear ≤ 305 := by
    clear hcycle hday hmonth
    omega
  clear hyear hday hcycle hofYear
  split <;> split <;> omega

/-- A time between the start of the year 1 and that of the year 10000 can be written. -/
theorem dateTime_ok {microseconds : Int} (hfirst : -62135596800000000 ≤ microseconds)
    (hlast : microseconds < 253402300800000000) : ∃ time, dateTime microseconds = .ok time := by
  have hdays : -719162 ≤ microseconds.fdiv 86400000000 ∧
      microseconds.fdiv 86400000000 ≤ 2932896 := by
    rw [Int.fdiv_eq_ediv_of_nonneg _ (by decide)]
    omega
  have hyear := year_civil hdays.1 hdays.2
  -- Such times fit any word.
  have hlong : Int.pow 2 (64 - 1) = 9223372036854775808 := rfl
  have hshort : Int.pow 2 (32 - 1) = 2147483648 := rfl
  have hseconds : fitsWord 64 (microseconds.fdiv 1000000) = true := by
    rw [Int.fdiv_eq_ediv_of_nonneg _ (by decide)]
    simp only [fitsWord, hlong, Bool.and_eq_true, decide_eq_true_eq]
    omega
  have hword : fitsWord 32 ((Date.civil (microseconds.fdiv 86400000000)).1 - 1900) = true := by
    simp only [fitsWord, hshort, Bool.and_eq_true, decide_eq_true_eq]
    omega
  rw [dateTime]
  simp only [hseconds, hword, Bool.not_true, Bool.false_eq_true, if_false, if_pos hyear]
  exact ⟨_, rfl⟩

end Times

namespace Value

mutual

/-- Values that JSON has a form for: no floating-point numbers, no mappings, and integers with no
more digits than can be written. -/
def Plain : Value → Prop
  | .integer n => isWritable n
  | .float _ => False
  | .mapping _ => False
  | .list items => AllPlain items
  | .tuple items => AllPlain items
  | _ => True

def AllPlain : List Value → Prop
  | [] => True
  | item :: rest => Plain item ∧ AllPlain rest

end

mutual

/-- What a value is in JSON. Of tuples and paths only the items and the text are left. -/
def content : Value → Content
  | .null => .null
  | .boolean b => .boolean b
  | .integer n => .integer n
  | .float x => .decimal (Json.floatText x)
  | .text t => .string t.raw
  | .path p => .string p.text.raw
  | .list items => .array (contents items)
  | .tuple items => .array (contents items)
  | .mapping rows => .string (Text.raw (shown (.mapping rows)))

def contents : List Value → List Content
  | [] => []
  | item :: rest => content item :: contents rest

end

mutual

/-- The JSON of a plain value can be written and read, and says what the value is. -/
theorem toJson_plain : (value : Value) → value.Plain →
    value.allWritable ∧ value.toJson.Readable ∧ value.toJson.content = value.content
  | .null, _ => ⟨rfl, trivial, rfl⟩
  | .boolean _, _ => ⟨rfl, trivial, rfl⟩
  | .integer _, h => ⟨h, trivial, rfl⟩
  | .text _, _ => ⟨rfl, trivial, rfl⟩
  | .path _, _ => ⟨rfl, trivial, rfl⟩
  | .list items, h =>
    have hitems := itemsJson_plain items h
    ⟨hitems.1, hitems.2.1, congrArg Content.array hitems.2.2⟩
  | .tuple items, h =>
    have hitems := itemsJson_plain items h
    ⟨hitems.1, hitems.2.1, congrArg Content.array hitems.2.2⟩

theorem itemsJson_plain : (items : List Value) → AllPlain items →
    itemsWritable items ∧ Json.ItemsReadable (itemsJson items) ∧
      Json.contents (itemsJson items) = contents items
  | [], _ => ⟨rfl, trivial, rfl⟩
  | item :: rest, h =>
    have hitem := toJson_plain item h.1
    have hrest := itemsJson_plain rest h.2
    ⟨by simp [itemsWritable, hitem.1, hrest.1], ⟨hitem.2.1, hrest.2.1⟩, by
      simp [itemsJson, Json.contents, contents, hitem.2.2, hrest.2.2]⟩

end

/-- Rows of plain values can be written and read, and say what the values are. -/
theorem rows_plain {rows : List (Text × Value)} (h : ∀ row ∈ rows, row.2.Plain) :
    rowsWritable rows ∧ Json.MembersReadable (rows.map fun (key, value) => (key, value.toJson)) ∧
      Json.memberContents (rows.map fun (key, value) => (key, value.toJson)) =
        rows.map fun (key, value) => (key.raw, value.content) := by
  induction rows with
  | nil => exact ⟨rfl, trivial, rfl⟩
  | cons row rest ih =>
    obtain ⟨key, value⟩ := row
    obtain ⟨hwritable, hreadable, hcontent⟩ := toJson_plain value (h _ List.mem_cons_self)
    obtain ⟨hrest, hrests, hcontents⟩ :=
      ih fun other hother => h other (List.mem_cons_of_mem _ hother)
    refine ⟨?_, ⟨hreadable, hrests⟩, ?_⟩
    · simp [rowsWritable, rowWritable, hwritable, hrest]
    · rw [List.map_cons, List.map_cons, Json.memberContents, hcontents, Json.memberContent,
        hcontent]

end Value

namespace Record

/-- The time of a record, to the microsecond, lies in the years 1 to 9999. -/
def InCalendar (record : Record) : Prop :=
  ∃ negative significand exponent, record.created = .finite negative significand exponent ∧
    -62135596800000000 ≤ microseconds negative significand exponent ∧
    microseconds negative significand exponent < 253402300800000000

theorem timestamp_ok {record : Record} (h : record.InCalendar) :
    ∃ time, timestamp record.created = .ok time := by
  obtain ⟨negative, significand, exponent, hcreated, hfirst, hlast⟩ := h
  rw [hcreated]
  exact dateTime_ok hfirst hlast

/-- The members of a line that are there only for some records. -/
def extraMembers (record : Record) : List (Text × Json) :=
  if record.extra = [] then []
  else [(.of "extra", .object (record.extra.map fun (key, value) => (key, value.toJson)))]

def thrownMembers (record : Record) : List (Text × Json) :=
  match record.thrown with
  | some thrown => [(.of "exception", .string thrown.text)]
  | none => []

/-- The members of the line of a record. -/
def lineMembers (record : Record) (time : DateTime) (message : RawText) : List (Text × Json) :=
  (.of "timestamp", .string time.text) :: (.of "level", .string (levelText record.level)) ::
    (.of "logger", .string record.logger) :: (.of "message", .rawString message) ::
    (record.extraMembers ++ record.thrownMembers)

/-- The value of a record that can be written has these members. -/
theorem json_eq {record : Record} {time : DateTime} {message : RawText}
    (htime : timestamp record.created = .ok time) (hmessage : record.message = .ok message)
    (hkeys : ∀ row ∈ record.extra, row.1 ∉ ownKeys)
    (hwritable : Value.rowsWritable record.extra = true) :
    record.json = .ok (.object (record.lineMembers time message)) := by
  have hextra : record.shownExtra = record.extra :=
    List.filter_eq_self.mpr fun row hrow => decide_eq_true (hkeys row hrow)
  rw [json, htime, hmessage, hextra]
  change (if Value.rowsWritable record.extra = true then _ else _) = _
  rw [if_pos hwritable, lineMembers, extraMembers, thrownMembers]
  cases record.extra <;> cases record.thrown <;> rfl

/-- What these members say. -/
theorem memberContents_lineMembers (record : Record) (time : DateTime) (message : Text) :
    Json.memberContents (record.lineMembers time message.raw) =
      (Text.raw (.of "timestamp"), .string time.text.raw) ::
        (Text.raw (.of "level"), .string (levelText record.level).raw) ::
        (Text.raw (.of "logger"), .string record.logger.raw) ::
        (Text.raw (.of "message"), .string message.raw) ::
        Json.memberContents (record.extraMembers ++ record.thrownMembers) := by
  have hmessage : Json.Reader.joined message.raw = message.raw := Json.joined_raw message
  simp only [lineMembers, Json.memberContents, Json.memberContent, Json.content, hmessage]

/-- The keys of a line differ, whichever it has. -/
theorem nodup_lineKeys : ∀ last ∈ [[], [Text.of "exception"], [Text.of "extra"],
      [Text.of "extra", Text.of "exception"]],
    ((Text.of "timestamp" :: Text.of "level" :: Text.of "logger" :: Text.of "message" ::
      last).map Text.raw).Nodup := by
  decide

/-- The line of a record with plain values is printable ASCII and, read as JSON, gives the record
back. -/
theorem line_gives_record {record : Record} {message : Text} (htime : record.InCalendar)
    (hmessage : record.message = .ok message.raw)
    (hkeys : ∀ row ∈ record.extra, row.1 ∉ ownKeys)
    (hvalues : ∀ row ∈ record.extra, row.2.Plain) :
    ∃ line members, record.line = .ok line ∧ line.IsAscii ∧
      Json.Reader.read? line = some (.object members) ∧ (Table.keys members).Nodup ∧
      Table.get? members (Text.raw (.of "level")) = some (.string (levelText record.level).raw) ∧
      Table.get? members (Text.raw (.of "logger")) = some (.string record.logger.raw) ∧
      Table.get? members (Text.raw (.of "message")) = some (.string message.raw) ∧
      Table.get? members (Text.raw (.of "exception")) =
        record.thrown.map (fun thrown => .string thrown.text.raw) ∧
      Table.get? members (Text.raw (.of "extra")) =
        if record.extra = [] then none
        else some (.object (record.extra.map fun (key, value) => (key.raw, value.content))) := by
  obtain ⟨time, htime⟩ := timestamp_ok htime
  obtain ⟨hwritable, hreadable, hcontents⟩ := Value.rows_plain hvalues
  have hjson := json_eq htime hmessage hkeys hwritable
  -- Both members that may be missing can be read where they stand.
  have hoptional : Json.MembersReadable (record.extraMembers ++ record.thrownMembers) := by
    rw [extraMembers, thrownMembers]
    split <;> split
    · exact ⟨trivial, trivial⟩
    · trivial
    · exact ⟨hreadable, trivial, trivial⟩
    · exact ⟨hreadable, trivial⟩
  have hmembers : Json.MembersReadable (record.lineMembers time message.raw) :=
    ⟨trivial, trivial, trivial, trivial, hoptional⟩
  have hread : Json.Reader.read? (Json.text (.object (record.lineMembers time message.raw))) = _ :=
    Json.read?_text hmembers
  refine ⟨_, _, congrArg (Except.map Json.text) hjson, Json.text_ascii _, hread, ?_⟩
  rw [memberContents_lineMembers, extraMembers, thrownMembers]
  -- What is found by key is found among these members.
  by_cases hextra : record.extra = []
  · rw [if_pos hextra, if_pos hextra]
    cases record.thrown with
    | none => exact ⟨nodup_lineKeys [] (by decide), rfl, rfl, rfl, rfl, rfl⟩
    | some thrown =>
      exact ⟨nodup_lineKeys [.of "exception"] (by decide), rfl, rfl, rfl, rfl, rfl⟩
  · rw [if_neg hextra, if_neg hextra, ← hcontents]
    cases record.thrown with
    | none => exact ⟨nodup_lineKeys [.of "extra"] (by decide), rfl, rfl, rfl, rfl, rfl⟩
    | some thrown =>
      exact ⟨nodup_lineKeys [.of "extra", .of "exception"] (by decide), rfl, rfl, rfl, rfl, rfl⟩

/-- A record with a quotation mark, a backslash, line breaks, other control characters and a
character beyond the first plane, in its message, its logger, a key, values and what was thrown. -/
def strange : Record where
  level := 25
  template := ['"', '\\', '\n', '\x7f', '😀', '\u2028']
  extra := [
    (['k', '"', 'é'],
      .tuple [.path (.read (.of "a/./b")), .list [.integer (-7), .null, .tuple []],
        .text ['\x00']]),
    (.of "n", .boolean true)]
  logger := .of "a.😀"
  created := .finite false 3400000001 (-1)
  thrown := some ⟨.of "OSError", ['\t', '\r']⟩

theorem line_gives_record_strange :
    ∃ line members, strange.line = .ok line ∧ line.IsAscii ∧
      Json.Reader.read? line = some (.object members) ∧
      Table.get? members (Text.raw (.of "message")) = some (.string (Text.raw strange.template)) ∧
      Table.get? members (Text.raw (.of "exception")) =
        some (.string (Text.raw (.of "OSError: \t\r"))) ∧
      Table.get? members (Text.raw (.of "extra")) = some (.object [
        (Text.raw ['k', '"', 'é'], .array [.string (Text.raw (.of "a/b")),
          .array [.integer (-7), .null, .array []], .string (Text.raw ['\x00'])]),
        (Text.raw (.of "n"), .boolean true)]) := by
  have htime : strange.InCalendar :=
    ⟨false, 3400000001, -1, rfl, by decide +kernel, by decide +kernel⟩
  have hvalues : ∀ row ∈ strange.extra, row.2.Plain := by
    intro row hrow
    rcases List.mem_cons.mp hrow with rfl | hrow
    · have hsmall : Value.isWritable (-7) = true := by decide
      exact ⟨trivial, ⟨hsmall, trivial, trivial, trivial⟩, trivial, trivial⟩
    · obtain rfl := List.mem_singleton.mp hrow
      trivial
  obtain ⟨line, members, hline, hascii, hread, -, -, -, hmessage, hthrown, hextra⟩ :=
    line_gives_record htime (show strange.message = .ok (Text.raw strange.template) from rfl)
      (by decide) hvalues
  exact ⟨line, members, hline, hascii, hread, hmessage, hthrown, hextra⟩

end Record

end Log

end HelpText
