import HelpText.Proofs.CommandLine.Indifference

/-!
The ways an invocation can go. Main statements: it is answered at once, is interrupted, has no log
or comes to the end of its run, and its status says which.
-/

namespace HelpText

namespace CommandLine

open Generation (Outcome)
open Log (Service)

section Courses

variable {console : Console} {words : List Text} {s opened after : Service} {arguments : Arguments}
  {settings : Settings} {result : Except Stop Unit × Service}

/-- An invocation reads its arguments and its settings, and opening its log has this result. -/
structure OpensLog (words : List Text) (s : Service) (arguments : Arguments) (settings : Settings)
    (result : Except Stop Unit × Service) : Prop where
  read : Arguments.read words = .ok arguments
  load : loadSettings s.disk.files arguments = .ok settings
  opened : openLog s arguments settings = result

/-- An invocation comes to its run, and this ends with a product or a failure. -/
def Generates (words : List Text) (s : Service) (outcome : Outcome) : Prop :=
  ∃ arguments settings opened, OpensLog words s arguments settings (.ok (), opened) ∧
    (generation arguments settings opened).1 = .ok outcome

/-- The log of an invocation cannot be opened. -/
def LacksLog (words : List Text) (s : Service) (failure : Failure) : Prop :=
  ∃ arguments settings after,
    OpensLog words s arguments settings (.error (.failure failure), after)

/-- All ways in which an invocation can go. -/
inductive Course (console : Console) (words : List Text) (s : Service) : Response × Service → Prop
  | answered {response : Response} {after : Service} {status : Nat}
      (hending : response.ending = .answered status) (hdisk : after.disk = s.disk) :
      Course console words s (response, after)
  | interrupted {response : Response} {after : Service} {interruption : Interruption}
      (hending : response.ending = .interrupted interruption) :
      Course console words s (response, after)
  | unlogged {arguments : Arguments} {settings : Settings} {after : Service} {failure : Failure}
      (h : OpensLog words s arguments settings (.error (.failure failure), after)) :
      Course console words s (showOutcome console after (.error failure))
  | generated {arguments : Arguments} {settings : Settings} {opened after : Service}
      {outcome : Outcome} (h : OpensLog words s arguments settings (.ok (), opened))
      (hgeneration : generation arguments settings opened = (.ok outcome, after)) :
      Course console words s (showOutcome console after outcome)

/-- How an invocation goes on from there. -/
def goOn (console : Console) (arguments : Arguments) (settings : Settings) :
    Except Stop Unit × Service → Response × Service
  | (.error (.failure failure), after) => showOutcome console after (.error failure)
  | (.error (.interruption interruption), after) => interrupt after interruption
  | (.ok (), opened) => generate console opened arguments settings

theorem OpensLog.invoke_eq (h : OpensLog words s arguments settings result) :
    invoke console words s = goOn console arguments settings result := by
  rw [invoke, h.read]
  simp only [h.load, h.opened]
  rfl

theorem invoke_course (console : Console) (words : List Text) (s : Service) :
    Course console words s (invoke console words s) := by
  cases hread : Arguments.read words with
  | error halt =>
    rw [invoke, hread]
    cases halt with
    | help => exact .answered rfl rfl
    | version => exact .answered rfl rfl
    | refused fault => exact .answered rfl rfl
  | ok arguments =>
    cases hload : loadSettings s.disk.files arguments with
    | error stop =>
      rw [invoke, hread]
      simp only [hload]
      cases stop with
      | failure failure => exact .answered rfl rfl
      | interruption interruption => exact .interrupted rfl
    | ok settings =>
      have hopens : OpensLog words s arguments settings (openLog s arguments settings) :=
        ⟨hread, hload, rfl⟩
      generalize openLog s arguments settings = result at hopens
      rw [hopens.invoke_eq]
      rcases result with ⟨(failure | interruption) | _, after⟩
      · exact .unlogged hopens
      · exact .interrupted rfl
      · -- The run itself ends or is interrupted.
        rw [goOn, generate_eq]
        rcases hgeneration : generation arguments settings after with
          ⟨interruption | outcome, final⟩
        · exact .interrupted rfl
        · exact .generated hopens hgeneration

theorem OpensLog.invoke_of_outcome {outcome : Outcome}
    (h : OpensLog words s arguments settings (.ok (), opened))
    (houtcome : (generation arguments settings opened).1 = .ok outcome) :
    invoke console words s =
      showOutcome console (generation arguments settings opened).2 outcome := by
  rw [h.invoke_eq, goOn, generate_eq, houtcome]
  rfl

theorem disk_of_answered {status : Nat} (h : (invoke console words s).1.ending = .answered status) :
    (invoke console words s).2.disk = s.disk := by
  have hcourse := invoke_course console words s
  generalize invoke console words s = step at hcourse h ⊢
  cases hcourse with
  | answered _ hdisk => exact hdisk
  | interrupted hending =>
    rw [hending] at h
    cases h
  | unlogged => cases h
  | @generated _ _ _ _ outcome => cases outcome <;> cases h

/-- A status is given by how the run ends, or for want of a log. -/
theorem ran_iff (console : Console) (words : List Text) (s : Service) (status : Nat) :
    (invoke console words s).1.ending = .ran status ↔
      (∃ failure, LacksLog words s failure) ∧ status = 1 ∨
        ∃ outcome, Generates words s outcome ∧ status = outcome.exitStatus := by
  constructor
  · intro hending
    have hcourse := invoke_course console words s
    generalize invoke console words s = step at hcourse hending
    cases hcourse with
    | answered h =>
      rw [h] at hending
      cases hending
    | interrupted h =>
      rw [h] at hending
      cases hending
    | unlogged h =>
      cases hending
      exact Or.inl ⟨⟨_, _, _, _, h⟩, rfl⟩
    | @generated _ _ _ _ outcome h hgeneration =>
      refine Or.inr ⟨outcome, ⟨_, _, _, h, congrArg Prod.fst hgeneration⟩, ?_⟩
      cases outcome <;> cases hending <;> rfl
  · rintro (⟨⟨failure, arguments, settings, after, h⟩, rfl⟩ |
      ⟨outcome, ⟨arguments, settings, opened, h, houtcome⟩, rfl⟩)
    · rw [h.invoke_eq]
      rfl
    · rw [h.invoke_of_outcome houtcome]
      cases outcome <;> rfl

end Courses

end CommandLine

end HelpText
