import AbapNaming.Phase.Operations
import AbapNaming.Proofs.Lint.Errors

/-! # Where the operations fail

Whether an operation can be named depends on its path alone, and its path is the one that the
descriptor holds. So the phase fails at the first defect among the paths, in whatever state the
names are, and not at all where there is none.
-/

namespace AbapNaming

def defectFailure (defect : String × PathError) : Failure := .operation defect.1 (.path defect.2)

theorem Operation.rename_failure (group : String) (e : Editor) (o : Operation) :
    (o.rename group e).2.2 =
      o.pathError?.map fun error => defectFailure (o.locationIn group, error) := by
  have hpath : (o.renameFields (o.locationIn group) e).1.path = o.path := rfl
  rw [rename, pathError?]
  simp only [hpath, Naming.renderPath]
  cases PathTemplate.placeholders o.path <;> rfl

/-- Where the state has no say in a failure, the first item that has one decides. -/
theorem mapUntil_failure {σ α : Type} {f : σ → α → α × σ × Option Failure} {g : α → Option Failure}
    (hf : ∀ s a, (f s a).2.2 = g a) (s : σ) (as : List α) :
    (mapUntil f s as).2.2 = as.findSome? g := by
  induction as generalizing s with
  | nil => rfl
  | cons a as ih =>
    have ha := hf s a
    rw [mapUntil, List.findSome?_cons, ← ha]
    rcases f s a with ⟨a', s', _ | e⟩
    · exact ih s'
    · rfl

theorem ApiGroup.rename_failure (e : Editor) (a : ApiGroup) :
    (a.rename e).2.2 = a.pathDefects.head?.map defectFailure := by
  change (mapUntil (Operation.rename a.location) _ a.operations).2.2 = _
  rw [mapUntil_failure (Operation.rename_failure a.location), pathDefects, List.head?_filterMap,
    List.map_findSome?]
  simp only [Option.map_map, Function.comp_def]

/-- The phase fails with the first defect among the paths. -/
theorem Phase.operations_failure (r : Run) :
    (Phase.operations.run r).2 = r.descriptor.pathDefects.head?.map defectFailure := by
  change (mapUntil ApiGroup.rename r.editor r.descriptor.apis).2.2 = _
  rw [mapUntil_failure ApiGroup.rename_failure, Descriptor.pathDefects, List.head?_flatMap,
    List.map_findSome?]
  rfl

end AbapNaming
