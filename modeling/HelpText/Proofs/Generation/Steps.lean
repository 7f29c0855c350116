import HelpText.Proofs.Generation.Rerun

/-!
The steps of a run, whatever it works on. Main statement: before and behind the one step that writes
the generated file, a run does nothing but report.
-/

namespace HelpText

namespace Generation

variable {σ : Type} {surroundings : Surroundings σ} {settings : Settings}

/-- The second state comes from the first by reports alone. -/
inductive Reported (surroundings : Surroundings σ) : σ → σ → Prop
  | refl (s : σ) : Reported surroundings s s
  | step {s after : σ} (event : Log.Event) (h : Reported surroundings s after) :
      Reported surroundings s (surroundings.report after event)

/-- What every report keeps is kept. -/
theorem Reported.invariant {I : σ → Prop} {s after : σ}
    (hreport : ∀ s event, I s → I (surroundings.report s event))
    (h : Reported surroundings s after) (hs : I s) : I after := by
  induction h with
  | refl => exact hs
  | step event _ ih => exact hreport _ event ih

/-- How a part of a run ends: with a result for which `Q` holds, or stopped where `E` does. -/
inductive EndsWith {α : Type} (Q : α → σ → Prop) (E : Stop → σ → Prop) : Except Stop α × σ → Prop
  | ok {a : α} {after : σ} (h : Q a after) : EndsWith Q E (.ok a, after)
  | error {stop : Stop} {after : σ} (h : E stop after) : EndsWith Q E (.error stop, after)

section Rules

variable {α β : Type} {Q : α → σ → Prop} {Q' : β → σ → Prop} {E E' : Stop → σ → Prop}

theorem EndsWith.bind {first : Stage σ α} {next : α → Stage σ β} {s : σ}
    (h : EndsWith Q E (first s)) (hnext : ∀ a middle, Q a middle → EndsWith Q' E (next a middle)) :
    EndsWith Q' E ((first >>= next) s) := by
  rw [bind_apply]
  generalize first s = step at h ⊢
  cases h with
  | ok ha => exact hnext _ _ ha
  | error hstop => exact .error hstop

theorem EndsWith.mono_stop {step : Except Stop α × σ} (h : EndsWith Q E step)
    (hstop : ∀ stop after, E stop after → E' stop after) : EndsWith Q E' step := by
  cases h with
  | ok ha => exact .ok ha
  | error hbefore => exact .error (hstop _ _ hbefore)

end Rules

/-- A run has read its documents and its license header, and has only reported since it started. -/
structure Gathered (surroundings : Surroundings σ) (settings : Settings) (destination : Text)
    (s : σ) (sources : List Source) (license : License) (after : σ) : Prop where
  loaded : Loaded settings
    (surroundings.files (surroundings.report s (starting settings destination))) sources
  licensed : ∃ middle, Reported surroundings s middle ∧
    License.resolve (surroundings.files middle) settings.license = .ok license
  reported : Reported surroundings s after

/-- A run has written what it read, and has only reported since then. -/
inductive Completed (surroundings : Surroundings σ) (settings : Settings) (s : σ) :
    Product → σ → Prop
  | written {sources : List Source} {license : License} {before after : σ} {files : FileSystem}
      (hgathered :
        Gathered surroundings settings settings.destination.text s sources license before)
      (hwrite : Output.write (surroundings.files before) settings.destination settings.outputName
        Output.fileMode (textOf settings license.text sources) = (files, .ok (targetOf settings)))
      (hafter : Reported surroundings (surroundings.withFiles before files) after) :
      Completed surroundings settings s
        { documents := sources.map (documentOf settings), target := targetOf settings } after

/-- A run was stopped by something that it met while it read, or where it wrote the file. -/
inductive Stopped (surroundings : Surroundings σ) (settings : Settings) (s : σ) : Stop → σ → Prop
  | reading {stop : Stop} {after : σ} (h : Reported surroundings s after) :
      Stopped surroundings settings s stop after
  | writing {stop : Stop} {text : Text} {before : σ} {files : FileSystem}
      (hbefore : Reported surroundings s before)
      (hwrite : Output.write (surroundings.files before) settings.destination settings.outputName
        Output.fileMode text = (files, .error stop)) :
      Stopped surroundings settings s stop (surroundings.withFiles before files)

section Steps

variable {s : σ}

theorem report_endsWith {after : σ} (h : Reported surroundings s after) (event : Log.Event) :
    EndsWith (fun _ => Reported surroundings s) (fun _ => Reported surroundings s)
      (report surroundings event after) :=
  .ok (h.step event)

theorem reportAll_endsWith {after : σ} (h : Reported surroundings s after)
    (events : List Log.Event) :
    EndsWith (fun _ => Reported surroundings s) (fun _ => Reported surroundings s)
      (reportAll surroundings events after) := by
  induction events generalizing after with
  | nil => exact .ok h
  | cons event events ih =>
    rw [reportAll]
    exact EndsWith.bind (report_endsWith h event) fun _ _ hstep => ih hstep

theorem consult_endsWith {α : Type} {after : σ} (h : Reported surroundings s after)
    (f : FileSystem → Except Stop α) :
    EndsWith (fun a final => final = after ∧ f (surroundings.files after) = .ok a)
      (fun _ => Reported surroundings s) (consult surroundings f after) := by
  rw [consult]
  cases hresult : f (surroundings.files after) with
  | ok a => exact .ok ⟨rfl, rfl⟩
  | error stop => exact .error h

theorem change_endsWith {α : Type} (f : FileSystem → FileSystem × Except Stop α) (s : σ) :
    EndsWith
      (fun a after => ∃ files, f (surroundings.files s) = (files, .ok a) ∧
        after = surroundings.withFiles s files)
      (fun stop after => ∃ files, f (surroundings.files s) = (files, .error stop) ∧
        after = surroundings.withFiles s files) (change surroundings f s) := by
  rw [change]
  rcases f (surroundings.files s) with ⟨files, stop | a⟩
  · exact .error ⟨files, rfl, rfl⟩
  · exact .ok ⟨files, rfl, rfl⟩

theorem checkNames_endsWith {after : σ} (h : Reported surroundings s after) (strict : Bool)
    (documents : List Document) (sources : List Source) :
    EndsWith (fun _ => Reported surroundings s) (fun _ => Reported surroundings s)
      (checkNames surroundings strict documents sources after) := by
  rw [checkNames]
  refine EndsWith.bind (reportAll_endsWith h _) fun _ middle hmiddle => ?_
  split
  · exact .error hmiddle
  · exact .ok hmiddle

/-- Until everything is read, a run only reports. -/
theorem gather_endsWith (surroundings : Surroundings σ) (settings : Settings) (destination : Text)
    (s : σ) :
    EndsWith
      (fun inputs after => ∃ sources,
        Gathered surroundings settings destination s sources inputs.1 after ∧
          inputs.2 = sources.map (documentOf settings))
      (fun _ => Reported surroundings s) (gather surroundings settings destination s) := by
  have hbegun : Reported surroundings s (surroundings.report s (starting settings destination)) :=
    (Reported.refl s).step _
  generalize hstart : surroundings.report s (starting settings destination) = begun at hbegun
  rw [gather]
  -- The state in which the documents are read is kept, and not only that it was reported to.
  refine EndsWith.bind (Q := fun _ after => after = begun) (.ok hstart) ?_
  rintro _ _ rfl
  refine EndsWith.bind (consult_endsWith hbegun _) ?_
  rintro sources _ ⟨rfl, hload⟩
  rw [load_eq_ok_iff] at hload
  refine EndsWith.bind (report_endsWith hbegun _) fun _ _ hloaded => ?_
  refine EndsWith.bind (reportAll_endsWith hloaded _) fun _ _ hparsed => ?_
  refine EndsWith.bind (checkNames_endsWith hparsed _ _ _) fun _ _ hchecked => ?_
  refine EndsWith.bind (consult_endsWith hchecked _) ?_
  rintro license _ ⟨rfl, hlicense⟩
  refine EndsWith.bind (report_endsWith hchecked _) fun _ _ hlicensed => ?_
  exact .ok ⟨sources, ⟨hstart ▸ hload, ⟨_, hchecked, hlicense⟩, hlicensed⟩, rfl⟩

/-- What a run does comes down to writing one file, with reports before and behind. -/
theorem stages_endsWith (surroundings : Surroundings σ) (settings : Settings) (s : σ) :
    EndsWith (Completed surroundings settings s) (Stopped surroundings settings s)
      (stages surroundings settings s) := by
  rw [stages]
  refine EndsWith.bind ((gather_endsWith _ _ _ s).mono_stop fun _ _ h => .reading h) ?_
  rintro ⟨license, documents⟩ before ⟨sources, hgathered, rfl⟩
  refine EndsWith.bind ((change_endsWith _ before).mono_stop ?_) ?_
  · rintro stop _ ⟨files, hwrite, rfl⟩
    exact .writing hgathered.reported hwrite
  · rintro target _ ⟨files, hwrite, rfl⟩
    obtain rfl : target = targetOf settings := (Output.write_of_ok hwrite).1
    exact .ok (.written hgathered hwrite ((Reported.refl _).step _))

/-- The failure that ends a run is reported last. -/
theorem conclude_cases {Q : Product → σ → Prop} {E : Stop → σ → Prop} {action : Stage σ Product}
    (h : EndsWith Q E (action s)) :
    (∃ product, (conclude surroundings action s).1 = .ok (.ok product) ∧
      Q product (conclude surroundings action s).2) ∨
    (∃ failure before, E (.failure failure) before ∧
      conclude surroundings action s =
        (.ok (.error failure), surroundings.report before (failed failure))) ∨
    ∃ interruption, E (.interruption interruption) (conclude surroundings action s).2 ∧
      (conclude surroundings action s).1 = .error interruption := by
  rw [conclude]
  generalize action s = step at h
  cases h with
  | ok hproduct => exact Or.inl ⟨_, rfl, hproduct⟩
  | @error stop _ hstop =>
    cases stop with
    | failure failure => exact Or.inr (Or.inl ⟨failure, _, hstop, rfl⟩)
    | interruption interruption => exact Or.inr (Or.inr ⟨interruption, hstop, rfl⟩)

end Steps

/-- As many documents are read as stand in the source directory. -/
theorem Loaded.length_eq {fs : FileSystem} {sources : List Source}
    (h : Loaded settings fs sources) :
    ∃ directory mode,
      fs.resolve true settings.source = .ok (.occupied directory (.directory mode)) ∧
        sources.length = (documentPaths settings fs directory).length := by
  obtain ⟨⟨listing, hlisting, hpaths⟩, -⟩ := h
  obtain ⟨directory, mode, hsource, -, rfl⟩ := (FileSystem.listFiles_eq_ok_iff _ _ _).mp hlisting
  refine ⟨directory, mode, hsource, ?_⟩
  have hlength := congrArg List.length hpaths
  rwa [List.length_map, (Source.select_perm_filter _ _ _).length_eq, filter_listing] at hlength

end Generation

end HelpText
