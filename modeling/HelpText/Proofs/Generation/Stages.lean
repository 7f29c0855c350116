import HelpText.Generation
import Mathlib.Logic.Basic

/-!
A run without its reports. The reports of a run go into its journal and have no influence on it, so
what it does to the files and how it ends is a function of the settings and the files.
-/

namespace HelpText

namespace Generation

theorem bind_apply {σ α β : Type} (first : Stage σ α) (next : α → Stage σ β) (s : σ) :
    (first >>= next) s =
      match first s with
      | (.ok a, s) => next a s
      | (.error stop, s) => (.error stop, s) := by
  change (match first s with
    | (result, s) => ExceptT.bindCont next result s) = _
  rcases first s with ⟨_ | a, s⟩ <;> rfl

theorem pure_apply {σ α : Type} (a : α) (s : σ) : (pure a : Stage σ α) s = (.ok a, s) := rfl

theorem throw_apply {σ α : Type} (stop : Stop) (s : σ) :
    (throw stop : Stage σ α) s = (.error stop, s) := rfl

theorem report_journal (event : Log.Event) (s : Journal) :
    report journal event s = (.ok (), { s with events := s.events ++ [event] }) := rfl

theorem consult_journal {α : Type} (f : FileSystem → Except Stop α) (s : Journal) :
    consult journal f s = (f s.files, s) := rfl

theorem change_journal {α : Type} (f : FileSystem → FileSystem × Except Stop α) (s : Journal) :
    change journal f s = ((f s.files).2, { s with files := (f s.files).1 }) := rfl

/-- Reports only make the journal longer. -/
theorem reportAll_journal (events : List Log.Event) (s : Journal) :
    reportAll journal events s = (.ok (), { s with events := s.events ++ events }) := by
  induction events generalizing s with
  | nil =>
    rw [List.append_nil]
    rfl
  | cons event events ih =>
    rw [reportAll, bind_apply, report_journal]
    simp only [ih, List.append_assoc, List.singleton_append]

theorem checkNames_journal (strict : Bool) (documents : List Document) (sources : List Source)
    (s : Journal) :
    let groups := collisions (documents.map Document.name) (sources.map Source.name)
    checkNames journal strict documents sources s =
      (if strict && !groups.isEmpty then .error (.failure (.duplicateNames groups)) else .ok (),
        { s with
          events := s.events ++ groups.map fun (name, files) => sharedName name files }) := by
  intro groups
  simp only [checkNames, bind_apply, reportAll_journal]
  by_cases h : (strict && !groups.isEmpty) = true
  · rw [if_pos h, if_pos h, throw_apply]
  · rw [if_neg h, if_neg h, pure_apply]

/-- What a run reads before it writes: the license header and the documents. -/
def inputs (settings : Settings) (fs : FileSystem) : Except Stop (License × List Document) :=
  match Source.load fs settings.source settings.extension settings.sort with
  | .error stop => .error stop
  | .ok sources =>
    let documents := sources.map (documentOf settings)
    let groups := collisions (documents.map Document.name) (sources.map Source.name)
    if settings.strictNames && !groups.isEmpty then .error (.failure (.duplicateNames groups))
    else
      match License.resolve fs settings.license with
      | .error stop => .error stop
      | .ok license => .ok (license, documents)

theorem gather_journal (settings : Settings) (destination : Text) (s : Journal) :
    (gather journal settings destination s).1 = inputs settings s.files ∧
      (gather journal settings destination s).2.files = s.files := by
  simp only [gather, inputs, bind_apply, report_journal, consult_journal, reportAll_journal,
    checkNames_journal, pure_apply]
  cases Source.load s.files settings.source settings.extension settings.sort with
  | error stop => exact ⟨rfl, rfl⟩
  | ok sources =>
    by_cases hstop : (settings.strictNames &&
        !(collisions ((sources.map (documentOf settings)).map Document.name)
          (sources.map Source.name)).isEmpty) = true
    · simp only [hstop, ↓reduceIte, and_self]
    · simp only [hstop, ↓reduceIte, Bool.false_eq_true]
      cases License.resolve s.files settings.license with
      | error stop => exact ⟨rfl, rfl⟩
      | ok license => exact ⟨rfl, rfl⟩

/-- The text of the generated file. -/
def sourceText (settings : Settings) (license : Text) (documents : List Document) : Text :=
  GoSource.render license (GoSource.packageName settings.destination.text) documents

/-- What a run does to the files, and its product or what stops it. -/
def work (settings : Settings) (fs : FileSystem) : FileSystem × Except Stop Product :=
  match inputs settings fs with
  | .error stop => (fs, .error stop)
  | .ok (license, documents) =>
    match Output.write fs settings.destination settings.outputName Output.fileMode
      (sourceText settings license.text documents) with
    | (fs, .error stop) => (fs, .error stop)
    | (fs, .ok target) => (fs, .ok { documents, target })

/-- With everything read, what is left is to write the file. -/
theorem work_files {settings : Settings} {fs : FileSystem} {license : License}
    {documents : List Document} (hinputs : inputs settings fs = .ok (license, documents)) :
    (work settings fs).1 =
      (Output.write fs settings.destination settings.outputName Output.fileMode
        (sourceText settings license.text documents)).1 := by
  rw [work, hinputs]
  simp only
  split
  · next hwrite => rw [hwrite]
  · next hwrite => rw [hwrite]

theorem stages_journal (settings : Settings) (s : Journal) :
    (stages journal settings s).1 = (work settings s.files).2 ∧
      (stages journal settings s).2.files = (work settings s.files).1 := by
  obtain ⟨hresult, hfiles⟩ := gather_journal settings settings.destination.text s
  rcases hgather : gather journal settings settings.destination.text s with ⟨result, after⟩
  rw [hgather] at hresult hfiles
  simp only at hresult hfiles
  simp only [stages, bind_apply, hgather]
  rw [work, ← hresult, ← hfiles]
  rcases result with stop | ⟨license, documents⟩
  · exact ⟨rfl, rfl⟩
  · simp only [change_journal, report_journal, pure_apply, sourceText]
    rcases Output.write after.files settings.destination settings.outputName Output.fileMode
      (GoSource.render license.text (GoSource.packageName settings.destination.text) documents)
      with ⟨written, stop | target⟩
    · exact ⟨rfl, rfl⟩
    · exact ⟨rfl, rfl⟩

/-- A run returns its product or its failure; an interruption passes through it. -/
theorem run_journal (settings : Settings) (s : Journal) :
    (run journal settings s).1 =
        (match (work settings s.files).2 with
          | .ok product => .ok (.ok product)
          | .error (.failure failure) => .ok (.error failure)
          | .error (.interruption interruption) => .error interruption) ∧
      (run journal settings s).2.files = (work settings s.files).1 := by
  obtain ⟨hresult, hfiles⟩ := stages_journal settings s
  rw [← hresult, ← hfiles, run, conclude]
  rcases stages journal settings s with ⟨(failure | interruption) | product, after⟩
  · exact ⟨rfl, rfl⟩
  · exact ⟨rfl, rfl⟩
  · exact ⟨rfl, rfl⟩

end Generation

end HelpText
