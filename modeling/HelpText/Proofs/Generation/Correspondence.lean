import HelpText.Proofs.Generation.Stages

/-!
Two runs that see the same things. A run on anything that takes reports is compared with one on a
journal: if both read the same and write alike, they end alike.
-/

namespace HelpText

namespace Generation

variable {σ : Type} {surroundings : Surroundings σ} {settings : Settings}
  {R R' : σ → Journal → Prop} {s : σ} {t : Journal}

/-- Taking the same report keeps two states in the relation. -/
def TakesReports (surroundings : Surroundings σ) (R : σ → Journal → Prop) : Prop :=
  ∀ s t event, R s t →
    R (surroundings.report s event) { t with events := t.events ++ [event] }

/-- States in the relation give a run the same to read. -/
structure ReadsAlike (surroundings : Surroundings σ) (settings : Settings)
    (R : σ → Journal → Prop) : Prop where
  reports : TakesReports surroundings R
  load : ∀ s t, R s t →
    Source.load (surroundings.files s) settings.source settings.extension settings.sort =
      Source.load t.files settings.source settings.extension settings.sort
  license : ∀ s t, R s t →
    License.resolve (surroundings.files s) settings.license =
      License.resolve t.files settings.license

/-- From states that are related by `R`, the generated file is written with the same result. From
then on they are related by `R'`. -/
structure WritesAlike (surroundings : Surroundings σ) (settings : Settings)
    (R R' : σ → Journal → Prop) : Prop where
  reports : TakesReports surroundings R'
  write : ∀ s t license documents, R s t → inputs settings t.files = .ok (license, documents) →
    let text := sourceText settings license.text documents
    let step := Output.write (surroundings.files s) settings.destination settings.outputName
      Output.fileMode text
    let step' := Output.write t.files settings.destination settings.outputName
      Output.fileMode text
    step.2 = step'.2 ∧ R' (surroundings.withFiles s step.1) { t with files := step'.1 }

/-- Two steps give the same result and lead to related states. -/
def Corresponds {α : Type} (R : σ → Journal → Prop) (step : α × σ) (step' : α × Journal) : Prop :=
  step.1 = step'.1 ∧ R step.2 step'.2

theorem corresponds_bind {α β : Type} {first : Stage σ α} {first' : Stage Journal α}
    {next : α → Stage σ β} {next' : α → Stage Journal β}
    (hfirst : Corresponds R (first s) (first' t)) (hstop : ∀ s t, R s t → R' s t)
    (hnext : ∀ a, (first' t).1 = .ok a → R (first s).2 (first' t).2 →
      Corresponds R' (next a (first s).2) (next' a (first' t).2)) :
    Corresponds R' ((first >>= next) s) ((first' >>= next') t) := by
  obtain ⟨hresult, hstate⟩ := hfirst
  rw [bind_apply, bind_apply]
  rcases hs : first s with ⟨result, after⟩
  rcases ht : first' t with ⟨result', after'⟩
  rw [hs, ht] at hresult hstate hnext
  obtain rfl : result = result' := hresult
  cases result with
  | error stop => exact ⟨rfl, hstop _ _ hstate⟩
  | ok a => exact hnext a rfl hstate

theorem reportAll_corresponds (hreports : TakesReports surroundings R) (events : List Log.Event)
    (h : R s t) : Corresponds R (reportAll surroundings events s) (reportAll journal events t) := by
  induction events generalizing s t with
  | nil => exact ⟨rfl, h⟩
  | cons event events ih =>
    rw [reportAll, reportAll]
    exact corresponds_bind (R := R) ⟨rfl, hreports s t event h⟩ (fun _ _ hstate => hstate)
      (fun _ _ hstate => ih hstate)

theorem gather_corresponds (hreads : ReadsAlike surroundings settings R) (destination : Text)
    (h : R s t) :
    Corresponds R (gather surroundings settings destination s)
      (gather journal settings destination t) := by
  have hreport (event : Log.Event) {s : σ} {t : Journal} (h : R s t) :
      Corresponds R (report surroundings event s) (report journal event t) :=
    ⟨rfl, hreads.reports s t event h⟩
  rw [gather, gather]
  refine corresponds_bind (hreport _ h) (fun _ _ h => h) fun _ _ h => ?_
  refine corresponds_bind (R := R) ⟨hreads.load _ _ h, h⟩ (fun _ _ h => h) fun sources _ h => ?_
  refine corresponds_bind (hreport _ h) (fun _ _ h => h) fun _ _ h => ?_
  refine corresponds_bind (reportAll_corresponds hreads.reports _ h) (fun _ _ h => h)
    fun _ _ h => ?_
  refine corresponds_bind (R := R) ?_ (fun _ _ h => h) fun _ _ h => ?_
  · rw [checkNames, checkNames]
    refine corresponds_bind (reportAll_corresponds hreads.reports _ h) (fun _ _ h => h)
      fun _ _ h => ?_
    split
    · exact ⟨rfl, h⟩
    · exact ⟨rfl, h⟩
  · refine corresponds_bind (R := R) ⟨hreads.license _ _ h, h⟩ (fun _ _ h => h)
      fun license _ h => ?_
    exact corresponds_bind (hreport _ h) (fun _ _ h => h) fun _ _ h => ⟨rfl, h⟩

theorem stages_corresponds (hreads : ReadsAlike surroundings settings R)
    (hwrites : WritesAlike surroundings settings R R') (h : R s t) :
    Corresponds (fun s t => R s t ∨ R' s t) (stages surroundings settings s)
      (stages journal settings t) := by
  obtain ⟨hinputs, hfiles⟩ := gather_journal settings settings.destination.text t
  rw [stages, stages]
  refine corresponds_bind (gather_corresponds hreads settings.destination.text h)
    (fun _ _ h => Or.inl h) ?_
  rintro ⟨license, documents⟩ hgather hstate
  -- What was gathered is what the written text is made of.
  have hread : inputs settings (gather journal settings settings.destination.text t).2.files =
      .ok (license, documents) := by
    rw [hfiles, ← hinputs, hgather]
  refine corresponds_bind (R := R') (hwrites.write _ _ license documents hstate hread)
    (fun _ _ h => Or.inr h) fun target _ hwritten => ?_
  refine corresponds_bind (R := R') ⟨rfl, hwrites.reports _ _ _ hwritten⟩ (fun _ _ h => Or.inr h) ?_
  exact fun _ _ h => ⟨rfl, Or.inr h⟩

theorem conclude_corresponds {action : Stage σ Product} {action' : Stage Journal Product}
    (hreports : TakesReports surroundings R) (h : Corresponds R (action s) (action' t)) :
    Corresponds R (conclude surroundings action s) (conclude journal action' t) := by
  obtain ⟨hresult, hstate⟩ := h
  rw [conclude, conclude]
  rcases hs : action s with ⟨result, after⟩
  rcases ht : action' t with ⟨result', after'⟩
  rw [hs, ht] at hresult hstate
  obtain rfl : result = result' := hresult
  rcases result with (failure | interruption) | product
  · exact ⟨rfl, hreports after after' (failed failure) hstate⟩
  · exact ⟨rfl, hstate⟩
  · exact ⟨rfl, hstate⟩

/-- Where both read the same and write alike, a run ends as it does on a journal. -/
theorem run_corresponds (hreads : ReadsAlike surroundings settings R)
    (hwrites : WritesAlike surroundings settings R R') (h : R s t) :
    Corresponds (fun s t => R s t ∨ R' s t) (run surroundings settings s)
      (run journal settings t) := by
  have hreports : TakesReports surroundings fun s t => R s t ∨ R' s t := by
    intro s t event hstate
    rcases hstate with hbefore | hwritten
    · exact Or.inl (hreads.reports s t event hbefore)
    · exact Or.inr (hwrites.reports s t event hwritten)
  exact conclude_corresponds hreports (stages_corresponds hreads hwrites h)

end Generation

end HelpText
