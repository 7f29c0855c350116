import HelpText.Proofs.Generation.Verdict

/-!
The variables of the generated file. Main statements: two of them share a name exactly if they hold
the same field of documents with the same name, and a run that allows no shared names is refused
exactly if two of its files give the same one.
-/

namespace HelpText

namespace GoSource

/-- No suffix can be taken for the end of another: each ends in a letter of its own. -/
theorem getLast?_suffix (field : Document.Field) :
    (suffix field).getLast? = some (match field with
      | .short => 't'
      | .long => 'g'
      | .examples => 's') := by
  cases field <;> rfl

theorem append_suffix_inj (name other : Text) (field field' : Document.Field) :
    name ++ suffix field = other ++ suffix field' ↔ field = field' ∧ name = other := by
  constructor
  · intro h
    -- The last letter tells the field; the same suffix can then be taken off both.
    have hlast := congrArg List.getLast? h
    simp only [List.getLast?_append, getLast?_suffix, Option.some_or] at hlast
    have hfield : field = field' := by
      cases field <;> cases field' <;> first | rfl | exact absurd hlast (by decide)
    subst hfield
    exact ⟨rfl, List.append_cancel_right h⟩
  · rintro ⟨rfl, rfl⟩
    rfl

/-- The document at this position has a variable of this name for the field. -/
def Declares (documents : List Document) (position : Nat) (field : Document.Field) (name : Text) :
    Prop :=
  ∃ document, documents[position]? = some document ∧ fieldValue document field ≠ [] ∧
    name = document.name ++ suffix field

theorem mem_declarations_iff (document : Document) (name : Text) :
    name ∈ (declarations document).map Declaration.name ↔
      ∃ field, fieldValue document field ≠ [] ∧ name = document.name ++ suffix field := by
  simp only [declarations, List.map_map, List.mem_map, List.mem_filter, Function.comp_apply]
  constructor
  · rintro ⟨field, ⟨-, hfilled⟩, rfl⟩
    exact ⟨field, by simpa using hfilled, rfl⟩
  · rintro ⟨field, hfilled, rfl⟩
    exact ⟨field, ⟨by cases field <;> simp, by simpa using hfilled⟩, rfl⟩

/-- The names that a file declares are those of its documents' fields. -/
theorem mem_flatMap_declarations_iff (documents : List Document) (name : Text) :
    name ∈ (documents.flatMap declarations).map Declaration.name ↔
      ∃ position field, Declares documents position field name := by
  rw [List.map_flatMap, List.mem_flatMap]
  simp only [mem_declarations_iff, Declares]
  constructor
  · rintro ⟨document, hdocument, field, hfilled, hname⟩
    obtain ⟨position, hposition⟩ := List.mem_iff_getElem?.mp hdocument
    exact ⟨position, field, document, hposition, hfilled, hname⟩
  · rintro ⟨position, field, document, hposition, hfilled, hname⟩
    exact ⟨document, List.mem_of_getElem? hposition, field, hfilled, hname⟩

theorem nodup_declarations (document : Document) :
    ((declarations document).map Declaration.name).Nodup := by
  rw [declarations, List.map_map]
  refine List.Nodup.map ?_ (List.Nodup.filter _ (by decide))
  intro field field' h
  exact ((append_suffix_inj _ _ _ _).mp h).1

/-- With names that differ from each other, no variable is declared twice. -/
theorem nodup_flatMap_declarations {documents : List Document}
    (h : (documents.map Document.name).Nodup) :
    ((documents.flatMap declarations).map Declaration.name).Nodup := by
  rw [List.map_flatMap, List.nodup_flatMap]
  refine ⟨fun document _ => nodup_declarations document, ?_⟩
  have hdiffer : documents.Pairwise fun a b => a.name ≠ b.name := List.pairwise_map.mp h
  refine hdiffer.imp ?_
  intro a b hab name ha hb
  obtain ⟨field, -, rfl⟩ := (mem_declarations_iff a name).mp ha
  obtain ⟨field', -, heq⟩ := (mem_declarations_iff b _).mp hb
  exact hab ((append_suffix_inj _ _ _ _).mp heq).2

/-- Names that end in a suffix are no danger: these two documents share no variable. -/
example :
    ((([{ name := .of "Foo", short := ['x'], long := ['y'] },
        { name := .of "FooShort", long := ['z'] }] : List Document).flatMap
      declarations).map Declaration.name) =
      [.of "FooShort", .of "FooLong", .of "FooShortLong"] := by
  decide +kernel

end GoSource

namespace Generation

open GoSource (Declares)

/-- The files at two positions give the same name. -/
def ShareName (sources : List Source) (i j : Nat) : Prop :=
  ∃ first second, sources[i]? = some first ∧ sources[j]? = some second ∧
    Document.deriveName first.name = Document.deriveName second.name

theorem not_nodup_iff_shareName (sources : List Source) :
    ¬(sources.map fun source => Document.deriveName source.name).Nodup ↔
      ∃ i j, i < j ∧ ShareName sources i j := by
  rw [List.nodup_iff_getElem?_ne_getElem?]
  push Not
  constructor
  · rintro ⟨i, j, hij, hj, heq⟩
    rw [List.length_map] at hj
    have hi : i < sources.length := by omega
    refine ⟨i, j, hij, sources[i], sources[j], List.getElem?_eq_getElem hi,
      List.getElem?_eq_getElem hj, ?_⟩
    simpa [List.getElem?_eq_getElem hi, List.getElem?_eq_getElem hj] using heq
  · rintro ⟨i, j, hij, first, second, hfirst, hsecond, heq⟩
    have hj : j < sources.length := (List.getElem?_eq_some_iff.mp hsecond).1
    refine ⟨i, j, hij, by simpa using hj, ?_⟩
    simp [hfirst, hsecond, heq]

/-- Two variables of a run's documents have one name just if they are the same field of files that
give the same name. -/
theorem declares_eq_iff {settings : Settings} {sources : List Source} {i j : Nat}
    {field field' : Document.Field} {name name' : Text}
    (h : Declares (sources.map (documentOf settings)) i field name)
    (h' : Declares (sources.map (documentOf settings)) j field' name') :
    name = name' ↔ field = field' ∧ ShareName sources i j := by
  obtain ⟨document, hdocument, -, rfl⟩ := h
  obtain ⟨document', hdocument', -, rfl⟩ := h'
  rw [List.getElem?_map, Option.map_eq_some_iff] at hdocument hdocument'
  obtain ⟨first, hfirst, rfl⟩ := hdocument
  obtain ⟨second, hsecond, rfl⟩ := hdocument'
  have hname (source : Source) :
      (documentOf settings source).name = Document.deriveName source.name := rfl
  rw [GoSource.append_suffix_inj, hname, hname]
  refine and_congr_right fun _ => ⟨fun heq => ⟨first, second, hfirst, hsecond, heq⟩, ?_⟩
  rintro ⟨first', second', hfirst', hsecond', heq⟩
  rw [hfirst] at hfirst'
  rw [hsecond] at hsecond'
  rwa [Option.some.inj hfirst', Option.some.inj hsecond']

theorem run_eq_duplicateNames_iff (settings : Settings) (s : Journal) :
    (∃ groups, (run journal settings s).1 = .ok (.error (.duplicateNames groups))) ↔
      settings.strictNames = true ∧ ∃ sources, Loaded settings s.files sources ∧
        ∃ i j, i < j ∧ ShareName sources i j := by
  have hpass (sources : List Source) : ¬NamesPass settings sources ↔
      settings.strictNames = true ∧ ∃ i j, i < j ∧ ShareName sources i j := by
    rw [NamesPass, ← not_nodup_iff_shareName]
    exact Classical.not_imp
  constructor
  · rintro ⟨groups, hrun⟩
    -- Only a stage that finds shared names fails like this.
    have hverdict := verdict_of_run hrun
    generalize (run journal settings s).2.files = after at hverdict
    cases hverdict with
    | shared hload hnames =>
      obtain ⟨hstrict, hshare⟩ := (hpass _).mp hnames
      exact ⟨hstrict, _, hload, hshare⟩
  · rintro ⟨hstrict, sources, hload, hshare⟩
    have hnames := (hpass sources).mpr ⟨hstrict, hshare⟩
    have hwork := work_of_inputs_error ((inputs_of_loaded hload).1 hnames)
    refine ⟨sharedNames settings sources, run_of_outcome ?_⟩
    rw [hwork]
    rfl

/-- In the file that a run writes, two variables have the same name exactly if they are the same
field of documents whose files give the same name. A run that allows no shared names declares every
variable once, and is refused, when all is read, exactly if two of its files give the same name. -/
theorem variables_clash_iff (settings : Settings) (s : Journal) :
    (∀ product, (run journal settings s).1 = .ok (.ok product) →
      ∃ sources license, Loaded settings s.files sources ∧
        product.documents = sources.map (documentOf settings) ∧
        (run journal settings s).2.files.readFile product.target =
          .ok (Utf8.encode (GoSource.render license
            (GoSource.packageName settings.destination.text) product.documents)) ∧
        (∀ i j field field' name name', Declares product.documents i field name →
          Declares product.documents j field' name' →
            (name = name' ↔ field = field' ∧ ShareName sources i j)) ∧
        (settings.strictNames = true →
          ((product.documents.flatMap GoSource.declarations).map
            GoSource.Declaration.name).Nodup)) ∧
      ((∃ groups, (run journal settings s).1 = .ok (.error (.duplicateNames groups))) ↔
        settings.strictNames = true ∧ ∃ sources, Loaded settings s.files sources ∧
          ∃ i j, i < j ∧ ShareName sources i j) := by
  refine ⟨fun product hrun => ?_, run_eq_duplicateNames_iff settings s⟩
  cases verdict_of_run hrun with
  | @written sources license opened _ hload hnames hlicense hopened hfile =>
    refine ⟨sources, license, hload, rfl, hfile, ?_, ?_⟩
    · intro i j field field' name name' h h'
      exact declares_eq_iff h h'
    · intro hstrict
      apply GoSource.nodup_flatMap_declarations
      rw [List.map_map]
      exact hnames hstrict

/-- Two files give the name `A`, and a third a name that ends in a suffix. -/
def namesakes : Journal where
  files := filesWith (Utf8.encode (.of "## T\nOne line.\n"))
    [([.of "docs", .of "a-.md"],
        .file (Utf8.encode (.of "## T\nAnother.\n")) Entry.newFileMode),
      ([.of "docs", .of "a-short.md"],
        .file (Utf8.encode (.of "## T\nA third.\n")) Entry.newFileMode),
      ([.of "L"], .file [] Entry.newFileMode)]

def namesakeDocuments : List Document :=
  [.parse false (.of "a.md") (.of "## T\nOne line.\n"),
    .parse false (.of "a-.md") (.of "## T\nAnother.\n"),
    .parse false (.of "a-short.md") (.of "## T\nA third.\n")]

theorem variables_clash_namesakes :
    (∃ product sources, (run journal lenientSettings namesakes).1 = .ok (.ok product) ∧
        Loaded lenientSettings namesakes.files sources ∧
        Declares product.documents 0 .short (.of "AShort") ∧
        Declares product.documents 1 .short (.of "AShort") ∧
        Declares product.documents 2 .short (.of "AShortShort") ∧
        ShareName sources 0 1 ∧ ¬ShareName sources 0 2) ∧
      (∃ product, (run journal strictSettings untroubled).1 = .ok (.ok product) ∧
        .of "AShort" ∈ (product.documents.flatMap GoSource.declarations).map
          GoSource.Declaration.name ∧
        ((product.documents.flatMap GoSource.declarations).map
          GoSource.Declaration.name).Nodup) ∧
      ∃ sources i j, Loaded strictSettings namesakes.files sources ∧ i < j ∧
        ShareName sources i j := by
  refine ⟨?_, ?_, ?_⟩
  · have hrun : (run journal lenientSettings namesakes).1 =
        .ok (.ok { documents := namesakeDocuments, target := targetOf lenientSettings }) := by
      decide +kernel
    obtain ⟨sources, -, hload, -, -, hclash, -⟩ :=
      (variables_clash_iff lenientSettings namesakes).1 _ hrun
    have hfirst : Declares namesakeDocuments 0 .short (.of "AShort") :=
      ⟨_, rfl, by decide +kernel, by decide +kernel⟩
    have hsecond : Declares namesakeDocuments 1 .short (.of "AShort") :=
      ⟨_, rfl, by decide +kernel, by decide +kernel⟩
    have hthird : Declares namesakeDocuments 2 .short (.of "AShortShort") :=
      ⟨_, rfl, by decide +kernel, by decide +kernel⟩
    obtain ⟨-, hshare⟩ := (hclash 0 1 .short .short _ _ hfirst hsecond).mp rfl
    refine ⟨_, sources, hrun, hload, hfirst, hsecond, hthird, hshare, ?_⟩
    intro hother
    have heq := (hclash 0 2 .short .short _ _ hfirst hthird).mpr ⟨rfl, hother⟩
    exact absurd heq (by decide)
  · have hrun : (run journal strictSettings untroubled).1 = .ok (.ok
        { documents := [Document.parse false (.of "a.md") (.of "## T\nOne line.\n")]
          target := targetOf strictSettings }) := by
      decide +kernel
    obtain ⟨-, -, -, -, -, -, hnodup⟩ := (variables_clash_iff strictSettings untroubled).1 _ hrun
    exact ⟨_, hrun, by decide +kernel, hnodup rfl⟩
  · obtain ⟨-, sources, hload, i, j, hij, hshare⟩ :=
      (variables_clash_iff strictSettings namesakes).2.mp
        ⟨[(.of "A", [.of "a.md", .of "a-.md"])], by decide +kernel⟩
    exact ⟨sources, i, j, hload, hij, hshare⟩

end Generation

end HelpText
