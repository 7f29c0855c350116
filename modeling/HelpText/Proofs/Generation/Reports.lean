import HelpText.Proofs.Generation.Traces

/-!
What a run reports. Main statement: a run that succeeds tells the whole story of its documents, its
license header and its file, in this order; a run that fails breaks off where it fails and adds what
went wrong.
-/

namespace HelpText

open Log (Event)

namespace License

/-- The header that a setting asks for, with where it came from. -/
inductive Found (fs : FileSystem) (choice : Option Text) : License → Prop
  | builtIn (h : choice = none ∨ choice = some []) : Found fs choice builtIn
  | unwanted (h : choice = some noneWord) : Found fs choice { text := [], origin := noneWord }
  | file {path file : Path} {text : Text} (hasked : asked choice = some path)
      (hfile : fs.expandHome path = .ok file) (htext : fs.readText file = .ok text) :
      Found fs choice { text, origin := file.text }

theorem found_of_resolve {fs : FileSystem} {choice : Option Text} {license : License}
    (h : resolve fs choice = .ok license) : Found fs choice license := by
  cases hasked : asked choice with
  | none =>
    rw [resolve_eq, hasked] at h
    cases h
    rcases choice with _ | _ | ⟨c, rest⟩
    · exact .builtIn (Or.inl rfl)
    · exact .builtIn (Or.inr rfl)
    · have hword : c :: rest = noneWord := by
        by_contra hword
        have hfile : asked (some (c :: rest)) = some (Path.read (c :: rest)) := if_neg hword
        rw [hfile] at hasked
        cases hasked
      rw [hword]
      exact .unwanted rfl
  | some path =>
    rw [resolve_eq, hasked] at h
    cases hfile : fs.expandHome path with
    | error fault => simp [hfile] at h
    | ok file =>
      simp only [hfile, read] at h
      split at h
      · next text htext =>
        cases h
        exact .file hasked hfile htext
      · cases h
      · cases h

end License

namespace Output

variable {fs after : FileSystem} {directory target : Path} {name text : Text} {mode : Nat}

theorem put_failure {failure : Failure}
    (h : (put fs target mode text).2 = .error (.failure failure)) :
    ∃ fault, failure = .output target fault := by
  rcases put_cases fs target mode text with ⟨stop, hput, hfault⟩ | ⟨place, location, -, -, hput⟩
  · rw [hput] at h
    exact hfault failure (Except.error.inj h)
  · rw [hput] at h
    cases h

/-- All that fails is opening the file; other trouble interrupts. -/
theorem write_failure {failure : Failure}
    (h : (write fs directory name mode text).2 = .error (.failure failure)) :
    ∃ fault, failure = .output (directory ++ Path.read name) fault := by
  rw [write] at h
  split at h
  · exact put_failure h
  · next made stop hprepare =>
    rw [prepare] at hprepare
    split at hprepare
    · cases hprepare
      cases h
    · cases hprepare
    · split at hprepare
      · cases hprepare
      · split at hprepare
        · cases hprepare
        · cases hprepare
          cases h

theorem readFile_of_write (h : write fs directory name mode text = (after, .ok target)) :
    target = directory ++ Path.read name ∧ after.readFile target = .ok (Utf8.encode text) := by
  rw [write] at h
  split at h
  · next made hprepare =>
    obtain ⟨rfl, place, location, hplace, htakes, rfl⟩ := put_of_ok h
    refine ⟨rfl, ?_⟩
    rw [FileSystem.readFile, FileSystem.entry?,
      FileSystem.resolve_put (Utf8.encode text) _ hplace htakes]
  · cases h

end Output

namespace Generation

/-- The generated file declares a variable for this field of a document. -/
def IsDeclared (document : Document) (field : Document.Field) : Prop :=
  ∃ declaration ∈ GoSource.declarations document,
    declaration.name = document.name ++ GoSource.suffix field

instance (document : Document) (field : Document.Field) : Decidable (IsDeclared document field) :=
  inferInstanceAs (Decidable (∃ declaration ∈ _, _))

theorem isDeclared_iff (document : Document) (field : Document.Field) :
    IsDeclared document field ↔ GoSource.fieldValue document field ≠ [] := by
  have hsuffix (other : Document.Field) :
      GoSource.suffix other = GoSource.suffix field ↔ other = field := by
    cases other <;> cases field <;> decide
  have hfield : field ∈ [Document.Field.short, .long, .examples] := by cases field <;> decide
  simp only [IsDeclared, GoSource.declarations, List.mem_map, List.mem_filter]
  constructor
  · rintro ⟨declaration, ⟨other, ⟨-, hother⟩, rfl⟩, hname⟩
    obtain rfl := (hsuffix other).mp (List.append_cancel_left hname)
    simpa using hother
  · intro h
    exact ⟨_, ⟨field, ⟨hfield, by simpa using h⟩, rfl⟩, rfl⟩

/-- The report about a file: the name derived from its name, and which variables are declared. -/
def described (settings : Settings) (source : Source) : Event where
  level := Log.debug
  template := .of "Parsed document"
  extra := [(.of "source", .text source.path.text),
    (.of "document", .text (Document.deriveName source.name)),
    (.of "short", .boolean (decide (IsDeclared (documentOf settings source) .short))),
    (.of "long", .boolean (decide (IsDeclared (documentOf settings source) .long))),
    (.of "examples", .boolean (decide (IsDeclared (documentOf settings source) .examples)))]

theorem parsed_eq_described (settings : Settings) (source : Source) :
    parsed source (documentOf settings source) = described settings source := by
  have hflag (field : Document.Field) :
      (!(GoSource.fieldValue (documentOf settings source) field).isEmpty) =
        decide (IsDeclared (documentOf settings source) field) := by
    rw [Bool.eq_iff_iff]
    simp [isDeclared_iff]
  rw [described, ← hflag .short, ← hflag .long, ← hflag .examples]
  rfl

/-- The names that several files give, in the order in which they first appear. -/
def repeatedNames (sources : List Source) : List Text :=
  let names := sources.map fun source => Document.deriveName source.name
  names.eraseDups.filter fun name => 1 < names.count name

/-- The files that give a name, in the order in which they are processed. -/
def filesNamed (sources : List Source) (name : Text) : List Text :=
  (sources.filter fun source => Document.deriveName source.name = name).map Source.name

/-- What is reported of the files that were read. -/
def sourceReports (settings : Settings) (sources : List Source) : List Event :=
  loaded sources.length :: sources.map (described settings) ++
    (repeatedNames sources).map fun name => sharedName name (filesNamed sources name)

/-- All that a run reports that succeeds. -/
def story (settings : Settings) (sources : List Source) (license : License) (target : Path)
    (bytes : Nat) : List Event :=
  starting settings settings.destination.text :: sourceReports settings sources ++
    [licensed license, wrote target sources.length bytes]

/-- What a run has reported before it reports this failure. -/
inductive StoppedAfter (settings : Settings) (fs : FileSystem) (sources : List Source)
    (license : License) : Failure → List Event → Prop
  | directory (directory : Path) (fault : FileSystem.Fault) :
      StoppedAfter settings fs sources license (.sourceDirectory directory fault)
        [starting settings settings.destination.text]
  | file (path : Path) (fault : FileSystem.Fault) :
      StoppedAfter settings fs sources license (.sourceFile path fault)
        [starting settings settings.destination.text]
  | text (path : Path) (fault : Utf8.Fault) :
      StoppedAfter settings fs sources license (.sourceText path fault)
        [starting settings settings.destination.text]
  | names {groups : List (Text × List Text)} (hload : Loaded settings fs sources) :
      StoppedAfter settings fs sources license (.duplicateNames groups)
        (starting settings settings.destination.text :: sourceReports settings sources)
  | license {path : Path} {fault : FileSystem.ReadFault} (hload : Loaded settings fs sources) :
      StoppedAfter settings fs sources license (.license path fault)
        (starting settings settings.destination.text :: sourceReports settings sources)
  | output {target : Path} {fault : FileSystem.Fault} (hload : Loaded settings fs sources)
      (hlicense : License.Found fs settings.license license) :
      StoppedAfter settings fs sources license (.output target fault)
        (starting settings settings.destination.text :: sourceReports settings sources ++
          [licensed license])

/-- What a run has reported at its end, beside its outcome and the files that it leaves. -/
inductive Told (settings : Settings) (fs after : FileSystem) : Outcome → List Event → Prop
  /-- The number of bytes is that of the file as it stands now. -/
  | product {sources : List Source} {license : License} {target : Path} {content : List UInt8}
      (hload : Loaded settings fs sources)
      (hlicense : License.Found fs settings.license license)
      (hfile : after.readFile target = .ok content)
      (hcontent : content = Utf8.encode (textOf settings license.text sources)) :
      Told settings fs after (.ok { documents := sources.map (documentOf settings), target })
        (story settings sources license target content.length)
  /-- The failure is reported behind a beginning of the story. -/
  | failure {sources : List Source} {license : License} {failure : Failure} {before : List Event}
      (hbefore : ∀ target bytes, before <+: story settings sources license target bytes)
      (hstop : StoppedAfter settings fs sources license failure before) :
      Told settings fs after (.error failure) (before ++ [failed failure])

section Reports

variable {settings : Settings} {fs : FileSystem} {s : Journal} {sources : List Source}
  {license : License} {failure : Failure} {stop : Stop}

theorem StoppedAfter.isPrefix {before : List Event}
    (h : StoppedAfter settings fs sources license failure before) (target : Path) (bytes : Nat) :
    before <+: story settings sources license target bytes := by
  cases h with
  | directory | file | text => exact ⟨_, rfl⟩
  | names | license => exact ⟨_, rfl⟩
  | output => exact ⟨[wrote target sources.length bytes], by simp [story]⟩

theorem filesOf_eq_filesNamed (sources : List Source) (name : Text) :
    filesOf ((sources.map fun source => Document.deriveName source.name).zip
      (sources.map Source.name)) name = filesNamed sources name := by
  induction sources with
  | nil => rfl
  | cons source sources ih =>
    rw [filesOf, filesNamed] at ih ⊢
    by_cases h : Document.deriveName source.name = name <;> simp [h, ih]

/-- The warnings, as the check of the names has them. -/
theorem collisions_eq_repeatedNames (settings : Settings) (sources : List Source) :
    collisions ((sources.map (documentOf settings)).map Document.name) (sources.map Source.name) =
      (repeatedNames sources).map fun name => (name, filesNamed sources name) := by
  have hnames : (sources.map (documentOf settings)).map Document.name =
      sources.map fun source => Document.deriveName source.name := by
    rw [List.map_map]
    rfl
  rw [hnames, collisions_eq _ _ (by simp)]
  exact List.map_congr_left fun name _ => by rw [filesOf_eq_filesNamed]

theorem parsed_zip (settings : Settings) (sources : List Source) :
    ((sources.zip (sources.map (documentOf settings))).map fun pair => parsed pair.1 pair.2) =
      sources.map (described settings) := by
  induction sources with
  | nil => rfl
  | cons source sources ih =>
    rw [List.map_cons, List.zip_cons_cons, List.map_cons, List.map_cons, ih]
    exact congrArg (· :: _) (parsed_eq_described settings source)

theorem gather_of_load_error (destination : Text)
    (h : Source.load s.files settings.source settings.extension settings.sort = .error stop) :
    gather journal settings destination s =
      (.error stop, { s with events := s.events ++ [starting settings destination] }) := by
  simp only [gather, bind_apply, report_journal, consult_journal, h]

/-- With the documents read, the names are checked and the license header is looked for. -/
theorem gather_of_loaded (destination : Text)
    (h : Source.load s.files settings.source settings.extension settings.sort = .ok sources) :
    let told := s.events ++ starting settings destination :: sourceReports settings sources
    gather journal settings destination s =
      if settings.strictNames && !(sharedNames settings sources).isEmpty then
        (.error (.failure (.duplicateNames (sharedNames settings sources))),
          { s with events := told })
      else match License.resolve s.files settings.license with
        | .error stop => (.error stop, { s with events := told })
        | .ok license => (.ok (license, sources.map (documentOf settings)),
            { s with events := told ++ [licensed license] }) := by
  intro told
  have hshared : collisions ((sources.map (documentOf settings)).map Document.name)
      (sources.map Source.name) = sharedNames settings sources := rfl
  have htold : s.events ++ [starting settings destination] ++ [loaded sources.length] ++
      sources.map (described settings) ++
      ((sharedNames settings sources).map fun group => sharedName group.1 group.2) = told := by
    rw [sharedNames, collisions_eq_repeatedNames, List.map_map]
    simp [told, sourceReports, Function.comp_def]
  simp only [gather, bind_apply, report_journal, consult_journal, h, reportAll_journal,
    checkNames_journal, parsed_zip, hshared, htold]
  by_cases hstop : (settings.strictNames && !(sharedNames settings sources).isEmpty) = true
  · simp only [hstop, ↓reduceIte]
  · simp only [hstop, ↓reduceIte, Bool.false_eq_true]
    cases License.resolve s.files settings.license <;> rfl

theorem run_of_gather_ok {after : Journal} {documents : List Document}
    (h : gather journal settings settings.destination.text s = (.ok (license, documents), after)) :
    let text := sourceText settings license.text documents
    run journal settings s =
      match Output.write after.files settings.destination settings.outputName Output.fileMode
        text with
      | (files, .ok target) =>
        (.ok (.ok { documents, target }), { files, events := after.events ++
          [wrote target documents.length (Utf8.encode text).length] })
      | (files, .error (.failure failure)) =>
        (.ok (.error failure), { files, events := after.events ++ [failed failure] })
      | (files, .error (.interruption interruption)) =>
        (.error interruption, { after with files }) := by
  simp only [run, conclude, stages, bind_apply, h, change_journal, sourceText, report_journal,
    pure_apply]
  rcases Output.write after.files settings.destination settings.outputName Output.fileMode
    (GoSource.render license.text (GoSource.packageName settings.destination.text) documents)
    with ⟨files, (failure | interruption) | target⟩
  · rfl
  · rfl
  · rfl

theorem stoppedAfter_of_load_error
    (h : Source.load fs settings.source settings.extension settings.sort =
      .error (.failure failure)) (sources : List Source) (license : License) :
    StoppedAfter settings fs sources license failure
      [starting settings settings.destination.text] := by
  rcases (load_eq_error_iff settings fs _).mp h with
    ⟨fault, -, hstop⟩ | ⟨before, path, after, fault | fault, -, -, -, hstop⟩
  · rw [Stop.ofFault] at hstop
    split at hstop <;> cases hstop
    exact .directory _ _
  · rw [Source.stopOf, Stop.ofFault] at hstop
    split at hstop <;> cases hstop
    exact .file _ _
  · cases hstop
    exact .text _ _

theorem stoppedAfter_of_resolve_error
    (h : License.resolve fs settings.license = .error (.failure failure))
    (hload : Loaded settings fs sources) (license : License) :
    StoppedAfter settings fs sources license failure
      (starting settings settings.destination.text :: sourceReports settings sources) := by
  rcases (License.resolve_eq_error_iff fs settings.license _).mp h with
    ⟨asked, -, ⟨fault, -, hstop⟩ | ⟨file, fault | fault, -, -, hstop⟩⟩
  · cases hstop
  · rw [License.stopOf, Stop.ofFault] at hstop
    split at hstop <;> cases hstop
    exact .license hload
  · cases hstop
    exact .license hload

/-- A run that stops before it writes reports its failure behind what it has reported so far. -/
theorem reports_of_gather_error (sources : List Source) (license : License)
    {before : List Event} {outcome : Outcome}
    (hgather : gather journal settings settings.destination.text s =
      (.error stop, { s with events := s.events ++ before }))
    (hstop : ∀ failure, stop = .failure failure →
      StoppedAfter settings s.files sources license failure before)
    (h : (run journal settings s).1 = .ok outcome) :
    ∃ told, (run journal settings s).2.events = s.events ++ told ∧
      Told settings s.files (run journal settings s).2.files outcome told := by
  simp only [run, conclude, stages, bind_apply, hgather] at h ⊢
  cases stop with
  | failure failure =>
    cases h
    have hstopped := hstop failure rfl
    exact ⟨_, List.append_assoc .., .failure hstopped.isPrefix hstopped⟩
  | interruption interruption => cases h

end Reports

/-- Of three documents two have one name, which is allowed. -/
def sharing : Journal where
  files := filesWith (Utf8.encode (.of "## T\nOne line.\n"))
    [([.of "docs", .of "b.md"], .file [] Entry.newFileMode),
      ([.of "docs", .of "b-.md"], .file [] Entry.newFileMode),
      ([.of "L"], .file [] Entry.newFileMode)]

end Generation

end HelpText
