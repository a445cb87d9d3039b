import AbapNaming.Proofs.Pipeline.Sequence

/-! # What a run executes

The work of a run is its stages: each phase, and the calls of the plugins before and after it. A run
that notes each stage as it comes to it shows which of them are executed. They are the first ones of
the order in which they are to come, and only the last of them may fail.
-/

namespace AbapNaming

namespace Step

variable {σ κ : Type}

theorem andThen_assoc (first second third : Step σ) :
    (first.andThen second).andThen third = first.andThen (second.andThen third) := by
  funext s
  rcases h : first s with ⟨s', _ | e⟩
  · have hsecond : first.andThen second s = second s' := andThen_of_done h
    rw [andThen_of_done h, andThen, hsecond]
    rfl
  · have hsecond : first.andThen second s = (s', some e) := andThen_of_failure h
    rw [andThen_of_failure h, andThen_of_failure hsecond]

theorem sequence_append (steps later : List (Step σ)) :
    sequence (steps ++ later) = (sequence steps).andThen (sequence later) := by
  induction steps with
  | nil => exact sequence_nil_andThen (sequence later)
  | cons step steps ih => rw [List.cons_append, sequence, ih, sequence, andThen_assoc]

/-- The step, with a note of it behind those that are there. -/
def noted (k : κ) (step : Step σ) : Step (List κ × σ) := fun s =>
  ((s.1 ++ [k], (step s.2).1), (step s.2).2)

/-- The steps lead from one state to another in this order, and none of them fails. -/
inductive Passes (step : κ → Step σ) : List κ → σ → σ → Prop
  | nil (s : σ) : Passes step [] s s
  | cons {k : κ} {ks : List κ} {s s' s'' : σ} (hfirst : step k s = (s', none))
      (hrest : Passes step ks s' s'') : Passes step (k :: ks) s s''

variable {step : κ → Step σ} {ks : List κ} {s s' : σ}

theorem passes_iff_done : Passes step ks s s' ↔ sequence (ks.map step) s = (s', none) := by
  constructor
  · intro h
    induction h with
    | nil s => rfl
    | cons hfirst _ ih => exact (andThen_of_done hfirst).trans ih
  · intro h
    induction ks generalizing s with
    | nil =>
      cases h
      exact .nil _
    | cons k ks ih =>
      rcases hfirst : step k s with ⟨t, _ | e⟩
      · exact .cons hfirst (ih ((andThen_of_done hfirst).symm.trans h))
      · exact absurd ((andThen_of_failure hfirst).symm.trans h) (by simp)

theorem Passes.of_prefix {front : List κ} (h : Passes step ks s s') (hfront : front <+: ks) :
    ∃ t, Passes step front s t := by
  induction h generalizing front with
  | nil s =>
    rw [List.prefix_nil.mp hfront]
    exact ⟨s, .nil s⟩
  | @cons k ks s _ _ hfirst _ ih =>
    rcases List.prefix_cons_iff.mp hfront with rfl | ⟨front, rfl, hlater⟩
    · exact ⟨s, .nil s⟩
    · obtain ⟨t, ht⟩ := ih hlater
      exact ⟨t, .cons hfirst ht⟩

theorem Passes.noted (h : Passes step ks s s') (before : List κ) :
    sequence (ks.map fun k => Step.noted k (step k)) (before, s) = ((before ++ ks, s'), none) := by
  induction h generalizing before with
  | nil s => rw [List.append_nil]; rfl
  | @cons k ks s t _ hfirst _ ih =>
    have hnoted : Step.noted k (step k) (before, s) = ((before ++ [k], t), none) := by
      simp only [Step.noted, hfirst]
    rw [List.map_cons, sequence, andThen_of_done hnoted, ih, List.append_assoc,
      List.singleton_append]

/-- A sequence that fails has passed the steps in front of the one that does. -/
theorem exists_failing {e : Failure} (h : sequence (ks.map step) s = (s', some e)) :
    ∃ before k behind reached, ks = before ++ k :: behind ∧ Passes step before s reached ∧
      step k reached = (s', some e) := by
  induction ks generalizing s with
  | nil => cases h
  | cons k ks ih =>
    rcases hfirst : step k s with ⟨t, _ | e'⟩
    · obtain ⟨before, j, behind, reached, rfl, hpasses, hfails⟩ :=
        ih ((andThen_of_done hfirst).symm.trans h)
      exact ⟨k :: before, j, behind, reached, rfl, .cons hfirst hpasses, hfails⟩
    · have houtcome := (andThen_of_failure hfirst).symm.trans h
      exact ⟨[], k, ks, s, rfl, .nil s, hfirst.trans houtcome⟩

/-- Nothing behind a step that fails is executed, with notes or without. -/
theorem sequence_of_failing {k : κ} {before : List κ} {reached : σ} {e : Failure}
    (hpasses : Passes step before s reached) (hfails : step k reached = (s', some e))
    (behind : List κ) :
    sequence ((before ++ k :: behind).map step) s = (s', some e) ∧
      sequence ((before ++ k :: behind).map fun j => Step.noted j (step j)) ([], s) =
        ((before ++ [k], s'), some e) := by
  have hnoted : Step.noted k (step k) (before, reached) = ((before ++ [k], s'), some e) := by
    simp only [Step.noted, hfails]
  constructor
  · rw [List.map_append, sequence_append, andThen_of_done (passes_iff_done.mp hpasses)]
    exact andThen_of_failure hfails
  · rw [List.map_append, sequence_append, andThen_of_done (hpasses.noted [])]
    exact andThen_of_failure hnoted

end Step

inductive Stage (ω : Type)
  | before (plugin : Plugin ω) (phase : Phase)
  | work (phase : Phase)
  | after (plugin : Plugin ω) (phase : Phase)

variable {ω : Type}

def Stage.step : Stage ω → Step (ω × Run)
  | .before plugin phase => plugin.before phase.name
  | .work phase => Pipeline.onRun phase
  | .after plugin phase => plugin.after phase.name

namespace Pipeline

/-- A phase with the calls before and after it, each in the order of the plugins. -/
def around (p : Pipeline ω) (phase : Phase) : List (Stage ω) :=
  p.plugins.map (Stage.before · phase) ++ .work phase :: p.plugins.map (Stage.after · phase)

/-- All stages of a run in the order in which they are to come. -/
def stages (p : Pipeline ω) : List (Stage ω) := (builtinPhases ++ p.added).flatMap p.around

section

variable {τ : Type}

/-- The loops of a run over plugins and phases, where `each` does the work of a stage. -/
def runPhaseWith (p : Pipeline ω) (each : Stage ω → Step τ) (phase : Phase) : Step τ :=
  (Step.sequence (p.plugins.map fun g => each (.before g phase))).andThen
    ((each (.work phase)).andThen
      (Step.sequence (p.plugins.map fun g => each (.after g phase))))

def runPhasesWith (p : Pipeline ω) (each : Stage ω → Step τ) : List Phase → Step τ
  | [] => fun s => (s, none)
  | phase :: rest => (p.runPhaseWith each phase).andThen (p.runPhasesWith each rest)

/-- The loops do the stages one after the other. -/
theorem runPhasesWith_eq_sequence (p : Pipeline ω) (each : Stage ω → Step τ)
    (phases : List Phase) :
    p.runPhasesWith each phases = Step.sequence ((phases.flatMap p.around).map each) := by
  induction phases with
  | nil => rfl
  | cons phase phases ih =>
    have haround : p.runPhaseWith each phase = Step.sequence ((p.around phase).map each) := by
      rw [around, List.map_append, Step.sequence_append, List.map_cons, List.map_map, List.map_map]
      rfl
    rw [runPhasesWith, haround, ih, List.flatMap_cons, List.map_append, Step.sequence_append]

/-- A run in which `each` does the work of a stage. -/
def runWith (p : Pipeline ω) (each : Stage ω → Step τ) : Step τ := p.runPhasesWith each p.phases

theorem runWith_eq_sequence (p : Pipeline ω) (each : Stage ω → Step τ) :
    p.runWith each = Step.sequence (p.stages.map each) :=
  p.runPhasesWith_eq_sequence each p.phases

end

theorem runPhasesWith_step (p : Pipeline ω) (phases : List Phase) :
    p.runPhasesWith Stage.step phases = p.runPhases phases := by
  induction phases with
  | nil => rfl
  | cons phase phases ih =>
    rw [runPhasesWith, ih]
    rfl

theorem run_eq_runWith (p : Pipeline ω) : p.run = p.runWith Stage.step :=
  (p.runPhasesWith_step p.phases).symm

theorem run_eq_sequence (p : Pipeline ω) : p.run = Step.sequence (p.stages.map Stage.step) :=
  p.run_eq_runWith.trans (p.runWith_eq_sequence Stage.step)

/-- What stands before a call after a phase, among the stages of that phase. -/
theorem around_eq_append {p : Pipeline ω} {phase phase' : Phase} {g : Plugin ω}
    {done later : List (Stage ω)} (h : p.around phase' = done ++ .after g phase :: later) :
    phase' = phase ∧ ∃ called uncalled, p.plugins = called ++ g :: uncalled ∧
      done = p.plugins.map (Stage.before · phase) ++ .work phase ::
        called.map (Stage.after · phase) := by
  rw [around] at h
  rcases List.append_eq_append_iff.mp h with ⟨front, rfl, hfront⟩ | ⟨rest, hbefore, hrest⟩
  · rcases List.cons_eq_append_iff.mp hfront with ⟨-, hwork⟩ | ⟨front, rfl, hafter⟩
    · cases hwork
    · obtain ⟨called, uncalled, hplugins, rfl, huncalled⟩ := List.map_eq_append_iff.mp hafter
      obtain ⟨g', uncalled, rfl, hg, -⟩ := List.map_eq_cons_iff.mp huncalled
      cases hg
      exact ⟨rfl, called, uncalled, hplugins, rfl⟩
  · rcases List.cons_eq_append_iff.mp hrest with ⟨-, hwork⟩ | ⟨rest, rfl, -⟩
    · cases hwork
    · -- No call before a phase is a call after one.
      have hmem : Stage.after g phase ∈ p.plugins.map (Stage.before · phase') := by
        rw [hbefore]
        simp
      simp at hmem

theorem stages_eq_append {p : Pipeline ω} {phases : List Phase} {phase : Phase} {g : Plugin ω}
    {done later : List (Stage ω)}
    (h : phases.flatMap p.around = done ++ .after g phase :: later) :
    ∃ earlier rest called uncalled, phases = earlier ++ phase :: rest ∧
      p.plugins = called ++ g :: uncalled ∧
      done = earlier.flatMap p.around ++ (p.plugins.map (Stage.before · phase) ++
        .work phase :: called.map (Stage.after · phase)) := by
  induction phases generalizing done with
  | nil => simp at h
  | cons phase' phases ih =>
    rw [List.flatMap_cons] at h
    rcases List.append_eq_append_iff.mp h with ⟨front, rfl, hfront⟩ | ⟨front, haround, hfront⟩
    · obtain ⟨earlier, rest, called, uncalled, rfl, hplugins, rfl⟩ := ih hfront
      exact ⟨phase' :: earlier, rest, called, uncalled, rfl, hplugins, by simp⟩
    · rcases List.cons_eq_append_iff.mp hfront with ⟨rfl, hfront⟩ | ⟨front, rfl, -⟩
      · -- No stages of a phase begin with a call after it.
        have hlater : phases.flatMap p.around = [] ++ .after g phase :: later := hfront.symm
        obtain ⟨earlier, rest, called, uncalled, -, -, hnone⟩ := ih hlater
        simp at hnone
      · obtain ⟨rfl, called, uncalled, hplugins, hdone⟩ := around_eq_append haround
        exact ⟨[], phases, called, uncalled, rfl, hplugins, hdone⟩

/-- The run from `s` executes the stages `executed` and not those `behind` them. -/
structure Executes (p : Pipeline ω) (s : ω × Run) (executed behind : List (Stage ω)) : Prop where
  stages_eq : p.stages = executed ++ behind
  run_eq : p.run = p.runWith Stage.step
  /-- These are the stages that are noted, and the notes do not change the run. -/
  noted_eq : p.runWith (fun stage => stage.step.noted stage) ([], s) =
    ((executed, (p.run s).1), (p.run s).2)
  /-- The run goes through exactly if all stages pass, and then all of them are executed. -/
  done_iff : ∀ s', p.run s = (s', none) ↔ Step.Passes Stage.step p.stages s s'
  behind_of_done : (p.run s).2 = none → behind = []
  /-- It fails exactly as the last stage that is executed does, behind others that pass. -/
  failed_iff : ∀ s' e, p.run s = (s', some e) ↔
    ∃ before stage reached, executed = before ++ [stage] ∧
      Step.Passes Stage.step before s reached ∧ stage.step reached = (s', some e)
  /-- A plugin is called after a phase only behind the calls before it and the phase itself, and
  what stands in front of the call has passed. -/
  after_passed : ∀ done g phase later, executed = done ++ .after g phase :: later →
    (∃ reached, Step.Passes Stage.step done s reached) ∧
    ∃ earlier rest called uncalled, builtinPhases ++ p.added = earlier ++ phase :: rest ∧
      p.plugins = called ++ g :: uncalled ∧
      done = earlier.flatMap p.around ++ (p.plugins.map (Stage.before · phase) ++
        .work phase :: called.map (Stage.after · phase))

theorem run_of_fails {p : Pipeline ω} {s s' reached : ω × Run} {e : Failure}
    {executed behind before : List (Stage ω)} {stage : Stage ω}
    (hstages : p.stages = executed ++ behind) (hexecuted : executed = before ++ [stage])
    (hpasses : Step.Passes Stage.step before s reached) (hfails : stage.step reached = (s', some e)) :
    p.run s = (s', some e) ∧
      p.runWith (fun stage => stage.step.noted stage) ([], s) = ((executed, s'), some e) := by
  rw [hexecuted, ← List.append_cons] at hstages
  rw [run_eq_sequence, runWith_eq_sequence, hstages, hexecuted]
  exact Step.sequence_of_failing hpasses hfails behind

theorem executes_of_passes {p : Pipeline ω} {s s' : ω × Run}
    (h : Step.Passes Stage.step p.stages s s') : p.Executes s p.stages [] := by
  have hrun : p.run s = (s', none) := by rw [run_eq_sequence, Step.passes_iff_done.mp h]
  have hstages : p.stages = p.stages ++ [] := (List.append_nil _).symm
  refine ⟨hstages, p.run_eq_runWith, ?_, ?_, fun _ => rfl, ?_, ?_⟩
  · rw [runWith_eq_sequence, h.noted [], hrun, List.nil_append]
  · intro t
    rw [run_eq_sequence, Step.passes_iff_done]
  · intro t e
    constructor
    · intro hfailed
      rw [hrun] at hfailed
      cases hfailed
    · rintro ⟨before, stage, reached, hexecuted, hpasses, hfails⟩
      exact (run_of_fails hstages hexecuted hpasses hfails).1
  · intro done g phase later hdone
    exact ⟨h.of_prefix ⟨.after g phase :: later, hdone.symm⟩, stages_eq_append hdone⟩

theorem executes_of_fails {p : Pipeline ω} {s s' reached : ω × Run} {e : Failure}
    {before behind : List (Stage ω)} {stage : Stage ω}
    (hstages : p.stages = (before ++ [stage]) ++ behind)
    (hpasses : Step.Passes Stage.step before s reached) (hfails : stage.step reached = (s', some e)) :
    p.Executes s (before ++ [stage]) behind := by
  obtain ⟨hrun, hnoted⟩ := run_of_fails hstages rfl hpasses hfails
  refine ⟨hstages, p.run_eq_runWith, ?_, ?_, ?_, ?_, ?_⟩
  · rw [hnoted, hrun]
  · intro t
    rw [run_eq_sequence, Step.passes_iff_done]
  · intro hdone
    rw [hrun] at hdone
    cases hdone
  · intro t e'
    constructor
    · intro hfailed
      rw [hrun] at hfailed
      cases hfailed
      exact ⟨before, stage, reached, rfl, hpasses, hfails⟩
    · rintro ⟨before', stage', reached', hexecuted, hpasses', hfails'⟩
      exact (run_of_fails hstages hexecuted hpasses' hfails').1
  · intro done g phase later hdone
    -- Only the last stage fails, and the call comes at the latest there.
    have hlength := congrArg List.length hdone
    simp only [List.length_append, List.length_cons, List.length_nil] at hlength
    have hfront : done <+: before := List.prefix_of_prefix_length_le
      ⟨.after g phase :: later, hdone.symm⟩ (List.prefix_append before [stage]) (by omega)
    rw [hdone, List.append_assoc] at hstages
    exact ⟨hpasses.of_prefix hfront, stages_eq_append hstages⟩

/-- Every run executes the stages of the pipeline from the first one on, each once, until one fails
or there are no more. -/
theorem exists_executes (p : Pipeline ω) (s : ω × Run) :
    ∃ executed behind, p.Executes s executed behind := by
  rcases hrun : p.run s with ⟨s', _ | e⟩
  · rw [run_eq_sequence, ← Step.passes_iff_done] at hrun
    exact ⟨p.stages, [], executes_of_passes hrun⟩
  · rw [run_eq_sequence] at hrun
    obtain ⟨before, stage, behind, reached, hstages, hpasses, hfails⟩ := Step.exists_failing hrun
    rw [List.append_cons] at hstages
    exact ⟨before ++ [stage], behind, executes_of_fails hstages hpasses hfails⟩

/-- One plugin keeps the names of the phases that begin, and another one stops the run behind the
mapping of types. -/
def watched : Pipeline (List String) where
  plugins := [
    { before := fun name s => ((s.1 ++ [name], s.2), none) },
    { after := fun name s =>
        (s, if name = "map-types" then some (.custom "enough") else none) }]

theorem exists_executes_watched :
    ∃ executed behind, watched.Executes ([], Run.start {} {}) executed behind ∧
      executed.length = 10 ∧ behind.length = 15 ∧
      (watched.run ([], Run.start {} {})).2 = some (.custom "enough") ∧
      (watched.run ([], Run.start {} {})).1.1 = ["validate", "map-types"] := by
  obtain ⟨executed, behind, h⟩ := exists_executes watched ([], Run.start {} {})
  have hexecuted : executed.length = 10 := by
    have hnotes := congrArg (fun outcome => outcome.1.1.length) h.noted_eq
    rw [← hnotes]
    decide +kernel
  have hall : watched.stages.length = 25 := by decide +kernel
  rw [h.stages_eq, List.length_append, hexecuted] at hall
  exact ⟨executed, behind, h, hexecuted, by omega, by decide +kernel, by decide +kernel⟩

end Pipeline

end AbapNaming
