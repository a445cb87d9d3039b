import AbapNaming.Phase.Validation

/-! # Errors among the lint findings

Only a malformed path is an error. The lints tell it once for each operation that has one, in
the order of the operations, and everything else that they find is a warning.
-/

namespace AbapNaming

/-- The text is a path template. -/
def PathTemplate.Accepts (path : String) : Prop := ∃ found, placeholders path = .ok found

def Operation.pathError? (o : Operation) : Option PathError :=
  match PathTemplate.placeholders o.path with
  | .error e => some e
  | .ok _ => none

/-- The defects of the operations' paths, each with the way to its operation. -/
def ApiGroup.pathDefects (a : ApiGroup) : List (String × PathError) :=
  a.operations.filterMap fun o => o.pathError?.map fun e => (o.locationIn a.location, e)

def Descriptor.pathDefects (d : Descriptor) : List (String × PathError) :=
  d.apis.flatMap ApiGroup.pathDefects

def defectDiagnostic (defect : String × PathError) : Diagnostic :=
  ⟨.error, lintPhase, defect.2.message, some defect.1⟩

theorem Operation.pathError?_eq_none_iff (o : Operation) :
    o.pathError? = none ↔ PathTemplate.Accepts o.path := by
  unfold pathError? PathTemplate.Accepts
  cases PathTemplate.placeholders o.path <;> simp

theorem Descriptor.pathDefects_eq_nil_iff (d : Descriptor) :
    d.pathDefects = [] ↔ ∀ a ∈ d.apis, ∀ o ∈ a.operations, PathTemplate.Accepts o.path := by
  simp only [pathDefects, ApiGroup.pathDefects, List.flatMap_eq_nil_iff, List.filterMap_eq_nil_iff,
    Option.map_eq_none_iff, Operation.pathError?_eq_none_iff]

theorem tokenFindings_cases {path : String} {declared : List String} {earlier : KeyedList String}
    {tokens : List String} {f : PathFinding} (hf : f ∈ tokenFindings path declared earlier tokens) :
    (∃ q ∈ tokens, ∃ e ∈ earlier ++ tokens.map fun p => (p, pathCandidate p),
      f = .insideEarlier q e.2 e.1) ∨
    (∃ q ∈ tokens, f = .outsideBraces q path) ∨ ∃ q ∈ tokens, f = .undeclared q := by
  induction tokens generalizing earlier with
  | nil => cases hf
  | cons token tokens ih =>
    simp only [tokenFindings, List.mem_append] at hf
    rcases hf with ((hearlier | hstray) | hundeclared) | hlater
    · cases hfound : earlier.find? fun e => Text.occursIn token.toList e.2.toList with
      | none => simp [hfound] at hearlier
      | some e =>
        rw [hfound, List.mem_singleton] at hearlier
        have he := List.mem_of_find?_eq_some hfound
        exact .inl ⟨token, List.mem_cons_self, e, List.mem_append_left _ he, hearlier⟩
    · split at hstray
      · exact .inr (.inl ⟨token, List.mem_cons_self, List.mem_singleton.mp hstray⟩)
      · cases hstray
    · split at hundeclared
      · cases hundeclared
      · exact .inr (.inr ⟨token, List.mem_cons_self, List.mem_singleton.mp hundeclared⟩)
    · rcases ih hlater with ⟨q, hq, e, he, rfl⟩ | ⟨q, hq, rfl⟩ | ⟨q, hq, rfl⟩
      · rw [List.append_assoc] at he
        exact .inl ⟨q, List.mem_cons_of_mem _ hq, e, he, rfl⟩
      · exact .inr (.inl ⟨q, List.mem_cons_of_mem _ hq, rfl⟩)
      · exact .inr (.inr ⟨q, List.mem_cons_of_mem _ hq, rfl⟩)

theorem tokenFindings_severity (path : String) (declared : List String) (earlier : KeyedList String)
    (tokens : List String) :
    ∀ f ∈ tokenFindings path declared earlier tokens, f.severity = .warning := by
  intro f hf
  rcases tokenFindings_cases hf with ⟨q, -, e, -, rfl⟩ | ⟨q, -, rfl⟩ | ⟨q, -, rfl⟩ <;> rfl

theorem pathDiagnostics_errors (o : Operation) (location : String) :
    (pathDiagnostics o location).filter Diagnostic.isError =
      (o.pathError?.map fun e => defectDiagnostic (location, e)).toList := by
  unfold pathDiagnostics Operation.pathFindings Operation.pathError?
  cases PathTemplate.placeholders o.path with
  | error e => rfl
  | ok found =>
    rw [Option.map_none, Option.toList_none, List.filter_eq_nil_iff]
    intro d hd
    obtain ⟨f, hf, rfl⟩ := List.mem_map.mp hd
    simp [Diagnostic.isError, tokenFindings_severity _ _ _ _ f hf]

theorem ApiGroup.pathDiagnostics_errors (a : ApiGroup) :
    (a.operations.flatMap fun o => pathDiagnostics o (o.locationIn a.location)).filter
      Diagnostic.isError = a.pathDefects.map defectDiagnostic := by
  simp only [pathDefects, List.filter_flatMap, AbapNaming.pathDiagnostics_errors]
  induction a.operations with
  | nil => rfl
  | cons o os ih =>
    rw [List.flatMap_cons, List.filterMap_cons, ih]
    cases o.pathError? <;> rfl

theorem Lint.paths_errors (d : Descriptor) :
    (Lint.paths.check d).filter Diagnostic.isError = d.pathDefects.map defectDiagnostic := by
  rw [Lint.paths, List.filter_flatMap, Descriptor.pathDefects, List.map_flatMap]
  exact congrArg (List.flatMap · d.apis) (funext ApiGroup.pathDiagnostics_errors)

theorem collisionDiagnostics_severity (kind location : String) (c : Option Collision) :
    ∀ d ∈ collisionDiagnostics kind location c, d.severity = .warning := by
  cases c <;> simp [collisionDiagnostics]

theorem Lint.collisions_severity (d : Descriptor) :
    ∀ x ∈ Lint.collisions.check d, x.severity = .warning := by
  intro x hx
  obtain ⟨⟨a, c⟩, -, hx⟩ := List.mem_flatMap.mp hx
  rcases List.mem_append.mp hx with hx | hx
  · exact collisionDiagnostics_severity _ _ _ x hx
  · obtain ⟨⟨o, c⟩, -, hx⟩ := List.mem_flatMap.mp hx
    exact collisionDiagnostics_severity _ _ _ x hx

theorem Lint.placements_severity (d : Descriptor) :
    ∀ x ∈ Lint.placements.check d, x.severity = .warning := by
  intro x hx
  obtain ⟨a, -, hx⟩ := List.mem_flatMap.mp hx
  obtain ⟨o, -, hx⟩ := List.mem_flatMap.mp hx
  obtain ⟨p, -, rfl⟩ := List.mem_map.mp hx
  rfl

theorem filter_isError_eq_nil {ds : List Diagnostic} (h : ∀ d ∈ ds, d.severity = .warning) :
    ds.filter Diagnostic.isError = [] := by
  rw [List.filter_eq_nil_iff]
  intro d hd
  simp [Diagnostic.isError, h d hd]

/-- The errors among all findings are the defects of the paths, one for each. -/
theorem lintAll_errors (d : Descriptor) :
    (lintAll defaultLints d).filter Diagnostic.isError = d.pathDefects.map defectDiagnostic := by
  simp only [lintAll, defaultLints, List.flatMap_cons, List.flatMap_nil, List.append_nil,
    List.filter_append]
  rw [Lint.paths_errors, filter_isError_eq_nil (Lint.collisions_severity d),
    filter_isError_eq_nil (Lint.placements_severity d), List.append_nil, List.append_nil]

theorem PathFinding.severity_ne_info (f : PathFinding) : f.severity ≠ .info := by
  cases f <;> simp [severity]

/-- The lints find errors and warnings. -/
theorem lintAll_severity (d : Descriptor) :
    ∀ x ∈ lintAll defaultLints d, x.severity ≠ .info := by
  intro x hx
  simp only [lintAll, defaultLints, List.flatMap_cons, List.flatMap_nil, List.append_nil,
    List.mem_append] at hx
  rcases hx with hx | hx | hx
  · obtain ⟨a, -, hx⟩ := List.mem_flatMap.mp hx
    obtain ⟨o, -, hx⟩ := List.mem_flatMap.mp hx
    obtain ⟨f, -, rfl⟩ := List.mem_map.mp hx
    exact f.severity_ne_info
  · simp [Lint.collisions_severity d x hx]
  · simp [Lint.placements_severity d x hx]

end AbapNaming
