import AbapNaming.Pipeline

/-! # The pipeline as a sequence of phases

Without plugins there is nothing around a phase, and the run is the sequence of the phases
themselves. What a later phase does is then read off from the state that the earlier ones leave.
-/

namespace AbapNaming

namespace Step

variable {σ : Type}

theorem eq_of_done {step : Step σ} {s : σ} (h : (step s).2 = none) : step s = ((step s).1, none) :=
  Prod.ext rfl h

theorem andThen_of_done {first second : Step σ} {s s' : σ} (h : first s = (s', none)) :
    andThen first second s = second s' := by
  rw [andThen, h]

theorem andThen_of_failure {first second : Step σ} {s s' : σ} {e : Failure}
    (h : first s = (s', some e)) : andThen first second s = (s', some e) := by
  rw [andThen, h]

theorem andThen_sequence_nil (step : Step σ) : andThen step (sequence []) = step := by
  funext s
  rcases h : step s with ⟨s', _ | e⟩
  · rw [andThen_of_done h]
    rfl
  · exact andThen_of_failure h

theorem sequence_nil_andThen (step : Step σ) : andThen (sequence []) step = step := rfl

end Step

namespace Pipeline

variable {ω : Type}

def onRunStep (step : Step Run) : Step (ω × Run) := fun s => ((s.1, (step s.2).1), (step s.2).2)

theorem onRunStep_andThen (first second : Step Run) :
    (onRunStep first).andThen (onRunStep second) =
      (onRunStep (first.andThen second) : Step (ω × Run)) := by
  funext s
  rcases h : first s.2 with ⟨r, _ | e⟩
  · have hs : (onRunStep first : Step (ω × Run)) s = ((s.1, r), none) := by simp [onRunStep, h]
    rw [Step.andThen_of_done hs, onRunStep, onRunStep, Step.andThen_of_done h]
  · have hs : (onRunStep first : Step (ω × Run)) s = ((s.1, r), some e) := by simp [onRunStep, h]
    rw [Step.andThen_of_failure hs, onRunStep, Step.andThen_of_failure h]

theorem runPhase_bare (phase : Phase) :
    ({} : Pipeline ω).runPhase phase = onRunStep phase.run := by
  change (Step.sequence []).andThen ((onRun phase).andThen (Step.sequence [])) = _
  rw [Step.sequence_nil_andThen, Step.andThen_sequence_nil]
  rfl

theorem runPhases_bare (phases : List Phase) :
    ({} : Pipeline ω).runPhases phases = onRunStep (Step.sequence (phases.map Phase.run)) := by
  induction phases with
  | nil => rfl
  | cons phase phases ih =>
    rw [runPhases, runPhase_bare, ih, onRunStep_andThen]
    rfl

end Pipeline

/-- The built-in run is the sequence of its phases. -/
theorem runBuiltin_eq_sequence : runBuiltin = Step.sequence (builtinPhases.map Phase.run) := by
  funext r
  change ((({} : Pipeline Unit).runPhases builtinPhases ((), r)).1.2,
    (({} : Pipeline Unit).runPhases builtinPhases ((), r)).2) = _
  rw [Pipeline.runPhases_bare]
  rfl

end AbapNaming
