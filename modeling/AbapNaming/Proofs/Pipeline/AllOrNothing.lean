import AbapNaming.Proofs.Lint.Errors
import AbapNaming.Proofs.Phase.Operations
import AbapNaming.Proofs.Pipeline.Sequence

/-! # All or nothing

The lints and the fourth phase ask the same question of each path, and no phase between them
touches a path. So a run that starts without errors either fails in validation, with nothing
named yet, or goes through to its end.
-/

namespace AbapNaming

namespace Run

theorem errors_report (r : Run) (new : List Diagnostic) :
    (r.report new).errors = r.errors ++ new.filter Diagnostic.isError := by
  simp only [errors, diagnostics, report, List.filter_append]

theorem hasErrors_eq_false_iff (r : Run) : r.hasErrors = false ↔ r.errors = [] := by
  rw [hasErrors, errors, List.any_eq_false, List.filter_eq_nil_iff]

theorem errors_linted {r : Run} (h : r.hasErrors = false) :
    (r.report (lintAll defaultLints r.descriptor)).errors =
      r.descriptor.pathDefects.map defectDiagnostic := by
  rw [errors_report, (hasErrors_eq_false_iff r).mp h, lintAll_errors, List.nil_append]

/-- The state in which the operations are reached, where validation lets the run pass. -/
def prepared (r : Run) : Run :=
  (Phase.models.run
    (Phase.typeMapping.run (r.report (lintAll defaultLints r.descriptor))).1).1

end Run

theorem ApiGroup.pathDefects_mapTypes (a : ApiGroup) : a.mapTypes.pathDefects = a.pathDefects := by
  simp only [pathDefects, mapTypes, List.filterMap_map]
  rfl

theorem Descriptor.pathDefects_mapTypes (d : Descriptor) :
    d.mapTypes.pathDefects = d.pathDefects := by
  simp only [pathDefects, mapTypes, List.flatMap_map, ApiGroup.pathDefects_mapTypes]

theorem Run.pathDefects_prepared (r : Run) :
    r.prepared.descriptor.pathDefects = r.descriptor.pathDefects :=
  r.descriptor.pathDefects_mapTypes

/-- Validation stops a run that had no errors exactly where a path is malformed. -/
theorem validate_of_defects {r : Run} (h : r.hasErrors = false) :
    validate defaultLints r = (r.report (lintAll defaultLints r.descriptor),
      if r.descriptor.pathDefects = [] then none
      else some (.validation r.descriptor.pathDefects.length)) := by
  have herrors := r.errors_linted h
  simp only [validate, herrors, List.length_map]
  by_cases hd : r.descriptor.pathDefects = []
  · rw [hd, List.map_nil, ← Run.hasErrors_eq_false_iff] at herrors
    simp [hd, herrors]
  · have hsome : (r.report (lintAll defaultLints r.descriptor)).hasErrors = true := by
      rw [← Bool.not_eq_false, Run.hasErrors_eq_false_iff, herrors, List.map_eq_nil_iff]
      exact hd
    simp [hd, hsome]

theorem sequence_prepared {r : Run} (h : r.hasErrors = false) (hd : r.descriptor.pathDefects = []) :
    Step.sequence ([Phase.validation defaultLints, .typeMapping, .models].map Phase.run) r =
      (r.prepared, none) := by
  have hvalid := validate_of_defects h
  rw [if_pos hd] at hvalid
  exact Step.andThen_of_done hvalid

theorem runBuiltin_of_defects {r : Run} (h : r.hasErrors = false)
    (hd : r.descriptor.pathDefects ≠ []) :
    runBuiltin r = (r.report (lintAll defaultLints r.descriptor),
      some (.validation r.descriptor.pathDefects.length)) := by
  have hvalid := validate_of_defects h
  rw [if_neg hd] at hvalid
  rw [runBuiltin_eq_sequence]
  exact Step.andThen_of_failure hvalid

/-- No operation fails where validation let the run pass. -/
theorem Run.operations_prepared (r : Run) (hd : r.descriptor.pathDefects = []) :
    (Phase.operations.run r.prepared).2 = none := by
  rw [Phase.operations_failure, r.pathDefects_prepared, hd]
  rfl

theorem runBuiltin_of_templates {r : Run} (h : r.hasErrors = false)
    (hd : r.descriptor.pathDefects = []) :
    runBuiltin r = ((Phase.supportingData.run (Phase.operations.run r.prepared).1).1, none) := by
  have hvalid := validate_of_defects h
  rw [if_pos hd] at hvalid
  have hoperations : Phase.operations.run r.prepared =
      ((Phase.operations.run r.prepared).1, none) :=
    Step.eq_of_done (r.operations_prepared hd)
  rw [runBuiltin_eq_sequence]
  calc Step.sequence (builtinPhases.map Phase.run) r
      = Step.sequence [Phase.operations.run, Phase.supportingData.run] r.prepared :=
        Step.andThen_of_done hvalid
    _ = Step.sequence [Phase.supportingData.run] (Phase.operations.run r.prepared).1 :=
        Step.andThen_of_done hoperations
    _ = _ := rfl

/-- What a run that started without errors has come to, where it went through. -/
theorem runBuiltin_of_done {r r' : Run} (h : r.hasErrors = false)
    (hdone : runBuiltin r = (r', none)) : r.descriptor.pathDefects = [] ∧
      r' = (Phase.supportingData.run (Phase.operations.run r.prepared).1).1 := by
  by_cases hd : r.descriptor.pathDefects = []
  · rw [runBuiltin_of_templates h hd] at hdone
    exact ⟨hd, (congrArg Prod.fst hdone).symm⟩
  · rw [runBuiltin_of_defects h hd] at hdone
    exact absurd (congrArg Prod.snd hdone) (by simp)

/-- A run that starts without errors goes through exactly if all paths are templates. If not, it
ends with nothing named and nothing mapped: all that is new are the findings of the lints, with
one error for each operation whose path is malformed. The operations never fail it. -/
theorem runBuiltin_all_or_nothing (r : Run) (h : r.hasErrors = false) :
    ((runBuiltin r).2 = none ↔
      ∀ a ∈ r.descriptor.apis, ∀ o ∈ a.operations, PathTemplate.Accepts o.path) ∧
    (∀ e, (runBuiltin r).2 = some e →
      (runBuiltin r).1.descriptor = r.descriptor ∧ (runBuiltin r).1.config = r.config ∧
      (runBuiltin r).1.naming = r.naming ∧
      ∃ found, (runBuiltin r).1.diagnostics = r.diagnostics ++ found ∧
        found = lintAll defaultLints r.descriptor ∧
        found.filter Diagnostic.isError = r.descriptor.pathDefects.map defectDiagnostic ∧
        e = .validation r.descriptor.pathDefects.length) ∧
    (∀ reached, Step.sequence ([Phase.validation defaultLints, .typeMapping, .models].map
        Phase.run) r = (reached, none) → (Phase.operations.run reached).2 = none) := by
  rw [← Descriptor.pathDefects_eq_nil_iff]
  by_cases hd : r.descriptor.pathDefects = []
  · rw [runBuiltin_of_templates h hd]
    refine ⟨by simp [hd], by simp, ?_⟩
    intro reached hreached
    rw [sequence_prepared h hd] at hreached
    obtain rfl : r.prepared = reached := congrArg Prod.fst hreached
    exact r.operations_prepared hd
  · rw [runBuiltin_of_defects h hd]
    refine ⟨by simp [hd], ?_, ?_⟩
    · intro e he
      exact ⟨rfl, rfl, rfl, _, rfl, rfl, lintAll_errors _, (Option.some.inj he).symm⟩
    · intro reached hreached
      have hvalid := validate_of_defects h
      rw [if_neg hd] at hvalid
      have hfailed := hreached.symm.trans (Step.andThen_of_failure hvalid)
      exact absurd (congrArg Prod.snd hfailed) (by simp)

def unclosedPets : Descriptor where
  apis := [{
    classname := "PetApi"
    operations := [{ operationId := "listPets", path := "/pets" },
      { operationId := "getPet", path := "/pets/\x7bpetId" }] }]

theorem runBuiltin_unclosedPets :
    (Run.start unclosedPets {}).hasErrors = false ∧
    (runBuiltin (Run.start unclosedPets {})).2 = some (.validation 1) ∧
    (runBuiltin (Run.start unclosedPets {})).1.descriptor = unclosedPets ∧
    ((runBuiltin (Run.start unclosedPets {})).1.diagnostics.filter Diagnostic.isError).map
      Diagnostic.location = [some "apis.PetApi.operations.getPet"] := by
  have hfailed : (runBuiltin (Run.start unclosedPets {})).2 = some (.validation 1) := by
    decide +kernel
  obtain ⟨-, hstopped, -⟩ := runBuiltin_all_or_nothing (Run.start unclosedPets {}) rfl
  obtain ⟨hdescriptor, -, -, found, hdiagnostics, -, herrors, -⟩ := hstopped _ hfailed
  refine ⟨rfl, hfailed, hdescriptor, ?_⟩
  rw [hdiagnostics, List.filter_append, herrors]
  decide +kernel

end AbapNaming
