import AbapNaming.Proofs.Pipeline.Notes
import AbapNaming.Report

/-! # Checked and mangled

A descriptor is found valid exactly where it can be mangled. What follows the lints has only notes
to add, so a run fails exactly if its diagnostics hold an error, and no failure is left to tell.
-/

namespace AbapNaming

/-- The errors of a run are the defects of the paths, whether it fails or not. -/
theorem runBuiltin_errors (d : Descriptor) (c : Config) :
    (runBuiltin (Run.start d c)).1.errors = d.pathDefects.map defectDiagnostic := by
  have hclean : (Run.start d c).hasErrors = false := rfl
  by_cases hd : d.pathDefects = []
  · have hdone := Step.eq_of_done (congrArg Prod.snd (runBuiltin_of_templates hclean hd))
    have hnotes : (d.sites.flatMap
        (NameSite.notes (runBuiltin (Run.start d c)).1.naming)).filter Diagnostic.isError = [] := by
      rw [List.filter_eq_nil_iff]
      intro x hx
      obtain ⟨s, -, hx⟩ := List.mem_flatMap.mp hx
      simp [Diagnostic.isError, NameSite.severity_of_mem_notes hx]
    rw [Run.errors, runBuiltin_diagnostics hdone, List.filter_append, List.filter_append,
      lintAll_errors, hnotes, List.append_nil]
    exact List.append_nil _
  · rw [runBuiltin_of_defects hclean hd]
    exact Run.errors_linted hclean

/-- A run fails exactly if it has errors, and then the failure counts them. -/
theorem runBuiltin_failure (d : Descriptor) (c : Config) :
    (runBuiltin (Run.start d c)).2 =
      if (runBuiltin (Run.start d c)).1.errors = [] then none
      else some (.validation (runBuiltin (Run.start d c)).1.errors.length) := by
  have hclean : (Run.start d c).hasErrors = false := rfl
  simp only [runBuiltin_errors, List.map_eq_nil_iff, List.length_map]
  split
  · next hd => rw [runBuiltin_of_templates hclean hd]
  · next hd =>
    rw [runBuiltin_of_defects hclean hd]
    rfl

/-- The report on a descriptor is its run's diagnostics by severity, and nothing else. -/
theorem check_eq (d : Descriptor) (c : Config) (path : String) :
    let r := (runBuiltin (Run.start d c)).1
    check d c path = ⟨path, r.errors.map Diagnostic.describe, r.warnings.map Diagnostic.describe,
      r.infos.map Diagnostic.describe⟩ := by
  intro r
  have hfailure := runBuiltin_failure d c
  have hrun : runBuiltin (Run.start d c) = (r, (runBuiltin (Run.start d c)).2) := rfl
  rw [check, hrun, hfailure]
  by_cases herrors : r.errors = []
  · rw [if_pos herrors]
    simp only [List.append_nil]
  · have hsome : r.hasErrors = true := by
      rwa [← Bool.not_eq_false, Run.hasErrors_eq_false_iff]
    rw [if_neg herrors]
    simp only [hsome, if_true, List.append_nil]

theorem mangle_eq (d : Descriptor) (c : Config) (path : String) (output : Option String) :
    let r := (runBuiltin (Run.start d c)).1
    mangle d c output =
      if (check d c path).isValid then
        .ok ⟨output, r.descriptor.toJson, (check d c path).warnings, r.naming.types.size⟩
      else .error (.run (.validation (check d c path).errors.length)) := by
  intro r
  have hrun : runBuiltin (Run.start d c) = (r, (runBuiltin (Run.start d c)).2) := rfl
  rw [mangle, hrun, runBuiltin_failure, check_eq]
  simp only [CheckReport.isValid, List.isEmpty_map, List.isEmpty_iff, List.length_map]
  split_ifs <;> rfl

theorem Diagnostic.split_perm (ds : List Diagnostic) :
    (ds.filter isError ++ ds.filter isWarning ++ ds.filter isInfo).Perm ds := by
  induction ds with
  | nil => rfl
  | cons x ds ih =>
    cases hx : x.severity with
    | error => simpa [isError, isWarning, isInfo, hx] using ih
    | warning =>
      simp only [isError, isWarning, isInfo, hx, List.filter_cons, List.append_assoc] at ih ⊢
      exact List.perm_middle.trans (ih.cons x)
    | info =>
      simp only [isError, isWarning, isInfo, hx, List.filter_cons] at ih ⊢
      exact List.perm_middle.trans (ih.cons x)

/-- A descriptor is valid exactly if it is mangled, with the same warnings in both reports. The
report on it lists each diagnostic of the run once, by severity and in order, and no error beside
them: a failure is told by the errors that it counts. -/
theorem check_agrees_mangle (d : Descriptor) (c : Config) (path : String)
    (output : Option String) :
    let run := runBuiltin (Run.start d c)
    let report := check d c path
    (report.isValid = true ↔ ∃ mangled, mangle d c output = .ok mangled) ∧
    (∀ mangled, mangle d c output = .ok mangled → mangled.warnings = report.warnings) ∧
    report.errors = (run.1.diagnostics.filter Diagnostic.isError).map Diagnostic.describe ∧
    report.warnings = (run.1.diagnostics.filter Diagnostic.isWarning).map Diagnostic.describe ∧
    report.infos = (run.1.diagnostics.filter Diagnostic.isInfo).map Diagnostic.describe ∧
    (report.errors ++ report.warnings ++ report.infos).Perm
      (run.1.diagnostics.map Diagnostic.describe) ∧
    (∀ failure, run.2 = some failure →
      report.errors ≠ [] ∧ failure = .validation report.errors.length) := by
  intro run report
  have hreport : report = _ := check_eq d c path
  have hmangle := mangle_eq d c path output
  refine ⟨?_, ?_, by rw [hreport]; rfl, by rw [hreport]; rfl, by rw [hreport]; rfl, ?_, ?_⟩
  · rw [hmangle]
    split_ifs with hvalid <;> simp [report, hvalid]
  · intro mangled hmangled
    rw [hmangle] at hmangled
    split_ifs at hmangled with hvalid
    rw [← Except.ok.inj hmangled]
  · rw [hreport]
    simp only [← List.map_append]
    exact (Diagnostic.split_perm _).map _
  · intro failure hfailure
    rw [runBuiltin_failure d c] at hfailure
    split_ifs at hfailure with herrors
    rw [hreport]
    exact ⟨by simpa using herrors, by simpa using hfailure.symm⟩

end AbapNaming
