import HelpText.Proofs.Document.ControlLines
import HelpText.Proofs.Text.Lines

/-!
Blank lines around a document. The scanner stays in its state over a blank line, and what it
collects there is blank, so that trimming takes it away again. Main statement: blank lines before
and behind a text leave the document in it as it is.
-/

namespace HelpText

namespace Text

/-- These lines as a text: each is ended by a newline. -/
def terminated (lines : List Text) : Text := lines.flatMap (· ++ ['\n'])

theorem isBlank_of_subset {part whole : Text} (hpart : part ⊆ whole) (h : isBlank whole = true) :
    isBlank part = true := by
  rw [isBlank, List.all_eq_true] at h ⊢
  exact fun c hc => h c (hpart hc)

theorem dropReturn_subset (line : Text) : dropReturn line ⊆ line := by
  rw [dropReturn]
  split
  · exact List.dropLast_subset line
  · exact List.Subset.refl line

/-- However a blank text is cut, its lines are blank. -/
theorem isBlank_of_mem_pieces {t line : Text} (h : isBlank t = true)
    (hline : line ∈ (cut '\n' t).map dropReturn) : isBlank line = true := by
  obtain ⟨piece, hpiece, rfl⟩ := List.mem_map.mp hline
  have hsubset : dropReturn piece ⊆ t :=
    List.Subset.trans (dropReturn_subset piece) (subset_of_mem_cut hpiece)
  exact isBlank_of_subset hsubset h

variable {blanks : List Text}

/-- Blank lines before a text are blank lines before its lines. -/
theorem exists_lines_terminated_append (h : ∀ line ∈ blanks, isBlank line = true)
    (content : Text) :
    ∃ padding, (∀ line ∈ padding, isBlank line = true) ∧
      lines (terminated blanks ++ content) = padding ++ lines content := by
  induction blanks with
  | nil => exact ⟨[], by simp, rfl⟩
  | cons blank blanks ih =>
    obtain ⟨hblank, hblanks⟩ := List.forall_mem_cons.mp h
    obtain ⟨padding, hpadding, hlines⟩ := ih hblanks
    refine ⟨(cut '\n' blank).map dropReturn ++ padding, ?_, ?_⟩
    · intro line hline
      rcases List.mem_append.mp hline with hline | hline
      · exact isBlank_of_mem_pieces hblank hline
      · exact hpadding line hline
    · have hnewline : terminated (blank :: blanks) ++ content =
          blank ++ '\n' :: (terminated blanks ++ content) := by
        simp [terminated]
      rw [hnewline, lines_append_cons, hlines, List.append_assoc]

/-- Blank lines behind a text are blank lines behind its lines, whether or not it ends in a
newline. -/
theorem exists_lines_append_terminated (h : ∀ line ∈ blanks, isBlank line = true)
    (content : Text) :
    ∃ padding, (∀ line ∈ padding, isBlank line = true) ∧
      lines (content ++ '\n' :: terminated blanks) = lines content ++ padding := by
  obtain ⟨padding, hpadding, hlines⟩ := exists_lines_terminated_append h []
  have hnone : lines [] = [] := rfl
  rw [List.append_nil, hnone, List.append_nil] at hlines
  rw [lines_append_cons, hlines]
  rcases map_dropReturn_cut content with hcut | hcut
  · exact ⟨padding, hpadding, by rw [hcut]⟩
  · -- The newline ends an empty line of its own.
    refine ⟨[] :: padding, ?_, by rw [hcut, List.append_assoc, List.singleton_append]⟩
    exact List.forall_mem_cons.mpr ⟨rfl, hpadding⟩

theorem joinTrimmed_append_append {front behind : List Text}
    (hfront : ∀ line ∈ front, isBlank line = true) (hbehind : ∀ line ∈ behind, isBlank line = true)
    (lines : List Text) : joinTrimmed (front ++ lines ++ behind) = joinTrimmed lines := by
  rw [joinTrimmed, trimBoth_append_append hfront hbehind, joinTrimmed]

end Text

namespace Document

theorem isTextLine_of_isBlank {full : Bool} {line : Text} (h : Text.isBlank line = true) :
    isTextLine full line = true := by
  have hheading : subsectionHeading.isPrefixOf line = false :=
    not_isPrefixOf_of_isBlank (by decide) h
  rw [isTextLine, isHeading, hheading, isFence_of_isBlank h, Bool.and_false]
  rfl

theorem isBlank_indent (state : ScanState) (line : Text) :
    Text.isBlank (state.indent line) = Text.isBlank line := by
  rw [ScanState.indent]
  split
  · rfl
  · rfl

/-- A blank line changes nothing, wherever the scan stands, and adds a blank line if any. -/
theorem Scan.Step.blank {full : Bool} {scan next : Scan} {line : Text}
    {item : Option (Field × Text)} (h : Scan.Step full scan line next item)
    (hblank : Text.isBlank line = true) :
    next = scan ∧ ∀ added ∈ item, Text.isBlank added.2 = true := by
  cases h with
  | title _ hline =>
    rw [not_isPrefixOf_of_isBlank (by decide) hblank] at hline
    cases hline
  | skipped => exact ⟨rfl, by simp⟩
  | short _ hline =>
    rw [hblank] at hline
    cases hline
  | control _ hline =>
    rw [isTextLine_of_isBlank hblank] at hline
    cases hline
  | text =>
    refine ⟨rfl, ?_⟩
    intro added hadded
    obtain ⟨field, -, rfl⟩ := Option.map_eq_some_iff.mp hadded
    rw [isBlank_indent, hblank]

/-- Over blank lines the scan stays where it is, and it collects blank lines only. -/
theorem scan_blanks (full : Bool) (scan : Scan) {blanks : List Text}
    (h : ∀ line ∈ blanks, Text.isBlank line = true) :
    scan.after full blanks = scan ∧
      ∀ item ∈ scan.items full blanks, Text.isBlank item.2 = true := by
  induction blanks with
  | nil => exact ⟨rfl, by simp [Scan.items]⟩
  | cons blank blanks ih =>
    obtain ⟨hblank, hblanks⟩ := List.forall_mem_cons.mp h
    obtain ⟨hafter, hitems⟩ := ih hblanks
    obtain ⟨hstays, hadded⟩ := (feed_step full scan blank).blank hblank
    rw [Scan.after, Scan.items]
    rcases hfeed : scan.feed full blank with ⟨next, item⟩
    rw [hfeed] at hstays hadded
    obtain rfl : next = scan := hstays
    refine ⟨hafter, ?_⟩
    cases item with
    | none => exact hitems
    | some added => exact List.forall_mem_cons.mpr ⟨hadded added rfl, hitems⟩

/-- What blank lines around the lines of a document add to a field is trimmed away. -/
theorem joinTrimmed_collected_padded {front behind : List Text}
    (hfront : ∀ line ∈ front, Text.isBlank line = true)
    (hbehind : ∀ line ∈ behind, Text.isBlank line = true) (full : Bool) (lines : List Text)
    (field : Field) :
    Text.joinTrimmed (collected full (front ++ lines ++ behind) field) =
      Text.joinTrimmed (collected full lines field) := by
  have hpicked (items : List (Field × Text)) (h : ∀ item ∈ items, Text.isBlank item.2 = true) :
      ∀ line ∈ items.filterMap (fun item => if item.1 = field then some item.2 else none),
        Text.isBlank line = true := by
    intro line hline
    obtain ⟨item, hitem, hpick⟩ := List.mem_filterMap.mp hline
    obtain ⟨-, hpick⟩ := Option.ite_none_right_eq_some.mp hpick
    obtain rfl := Option.some.inj hpick
    exact h item hitem
  obtain ⟨hstart, hfirst⟩ := scan_blanks full {} hfront
  obtain ⟨-, hlast⟩ := scan_blanks full (({} : Scan).after full lines) hbehind
  have hitems : ({} : Scan).items full (front ++ lines ++ behind) =
      ({} : Scan).items full front ++ ({} : Scan).items full lines ++
        (({} : Scan).after full lines).items full behind := by
    rw [Scan.items_append, Scan.items_append, Scan.after_append, hstart]
  rw [collected, hitems, List.filterMap_append, List.filterMap_append,
    Text.joinTrimmed_append_append (hpicked _ hfirst) (hpicked _ hlast), collected]

theorem parse_padded {content padded : Text} {front behind : List Text}
    (hlines : Text.lines padded = front ++ Text.lines content ++ behind)
    (hfront : ∀ line ∈ front, Text.isBlank line = true)
    (hbehind : ∀ line ∈ behind, Text.isBlank line = true) (full : Bool) (filename : Text) :
    parse full filename padded = parse full filename content := by
  rw [parse, hlines, parse]
  simp only [joinTrimmed_collected_padded hfront hbehind]

/-- Blank lines before a text and behind it make no difference to the document in it. -/
theorem parse_surrounded {blanks : List Text} (h : ∀ line ∈ blanks, Text.isBlank line = true)
    (full : Bool) (filename content : Text) :
    parse full filename (Text.terminated blanks ++ content) = parse full filename content ∧
      parse full filename (content ++ '\n' :: Text.terminated blanks) =
        parse full filename content := by
  obtain ⟨front, hfront, hbefore⟩ := Text.exists_lines_terminated_append h content
  obtain ⟨behind, hbehind, hafter⟩ := Text.exists_lines_append_terminated h content
  constructor
  · have hlines : Text.lines (Text.terminated blanks ++ content) =
        front ++ Text.lines content ++ [] := by
      rw [hbefore, List.append_nil]
    exact parse_padded hlines hfront (by simp) full filename
  · have hlines : Text.lines (content ++ '\n' :: Text.terminated blanks) =
        [] ++ Text.lines content ++ behind := by
      rw [hafter, List.nil_append]
    exact parse_padded hlines (by simp) hbehind full filename

/-- Lines with nothing, with blanks, and with a carriage return. -/
def blankLines : List Text := [[], .of " \t", .of "\x0c\r"]

/-- A text that ends inside a code block, and in a carriage return without a newline. -/
def openBlock : Text := .of "## get\n\nGet.\n### Examples\n```\nget pods\r"

/-- Behind an open block blank lines are collected, each behind a tab, and trimmed. -/
theorem parse_surrounded_openBlock :
    (∀ line ∈ blankLines, Text.isBlank line = true) ∧
      parse false (.of "get.md") (Text.terminated blankLines ++ openBlock) =
        parse false (.of "get.md") openBlock ∧
      parse false (.of "get.md") (openBlock ++ '\n' :: Text.terminated blankLines) =
        parse false (.of "get.md") openBlock ∧
      (parse false (.of "get.md") openBlock).examples = .of "\tget pods" := by
  have hblank : ∀ line ∈ blankLines, Text.isBlank line = true := by decide
  obtain ⟨hbefore, hafter⟩ := parse_surrounded hblank false (.of "get.md") openBlock
  exact ⟨hblank, hbefore, hafter, by decide +kernel⟩

end Document

end HelpText
