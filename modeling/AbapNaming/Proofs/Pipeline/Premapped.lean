import AbapNaming.Proofs.Phase.TypeMapping
import AbapNaming.Proofs.Pipeline.AllOrNothing

/-! # Descriptors with mapped types

Validation, the one phase before the mapping of types, looks at no type, and what has been mapped is
not mapped again. So a run does not tell whether the types were mapped before.
-/

namespace AbapNaming

/-! ## What the lints see -/

namespace Operation

theorem pathFindings_mapTypes (o : Operation) : o.mapTypes.pathFindings = o.pathFindings := by
  have hparameters : o.mapTypes.pathParameters = o.pathParameters := by
    simp only [pathParameters, mapTypes, List.filter_map, List.map_map]
    rfl
  rw [pathFindings, pathFindings, hparameters]
  rfl

theorem pathDiagnostics_mapTypes (o : Operation) (location : String) :
    pathDiagnostics o.mapTypes location = pathDiagnostics o location := by
  rw [pathDiagnostics, pathDiagnostics, pathFindings_mapTypes]

theorem placementDiagnostics_mapTypes (o : Operation) (location : String) :
    placementDiagnostics o.mapTypes location = placementDiagnostics o location := by
  simp only [placementDiagnostics, mapTypes, List.filter_map, List.map_map]
  rfl

end Operation

theorem ApiGroup.operationCollisions_mapTypes (a : ApiGroup) :
    operationCollisions a.mapTypes = operationCollisions a := by
  simp only [operationCollisions, mapTypes, List.map_map, List.zip_map_left, List.flatMap_map]
  rfl

theorem Lint.paths_mapTypes (d : Descriptor) : Lint.paths.check d.mapTypes = Lint.paths.check d := by
  simp only [Lint.paths, Descriptor.mapTypes, ApiGroup.mapTypes, List.flatMap_map,
    Operation.pathDiagnostics_mapTypes]
  rfl

theorem Lint.placements_mapTypes (d : Descriptor) :
    Lint.placements.check d.mapTypes = Lint.placements.check d := by
  simp only [Lint.placements, Descriptor.mapTypes, ApiGroup.mapTypes, List.flatMap_map,
    Operation.placementDiagnostics_mapTypes]
  rfl

theorem Lint.collisions_mapTypes (d : Descriptor) :
    Lint.collisions.check d.mapTypes = Lint.collisions.check d := by
  simp only [Lint.collisions, Descriptor.mapTypes, List.map_map, List.zip_map_left,
    List.flatMap_map, Prod.map, ApiGroup.operationCollisions_mapTypes]
  rfl

theorem lintAll_mapTypes (d : Descriptor) :
    lintAll defaultLints d.mapTypes = lintAll defaultLints d := by
  simp only [lintAll, defaultLints, List.flatMap_cons, List.flatMap_nil, Lint.paths_mapTypes,
    Lint.collisions_mapTypes, Lint.placements_mapTypes]

/-! ## Two runs -/

namespace Run

def linted (r : Run) : Run := r.report (lintAll defaultLints r.descriptor)

/-- The state once the types have been mapped. -/
def mapped (r : Run) : Run := (Phase.typeMapping.run r).1

/-- Mapping the types of a run that has just been started is starting it on the mapped descriptor. -/
theorem mapped_start (d : Descriptor) (c : Config) :
    (Run.start d c).mapped = Run.start d.mapTypes c := rfl

theorem mapped_mapped (r : Run) : r.mapped.mapped = r.mapped := by
  have hdescriptor := r.descriptor.mapTypes_mapTypes
  exact congrArg (fun d : Descriptor => { r with descriptor := d }) hdescriptor

theorem mapped_eq_self_iff (r : Run) :
    r.mapped = r ↔ ∀ type ∈ r.descriptor.dataTypes, SchemaType.abap? type = none := by
  rw [← Descriptor.mapTypes_eq_self_iff]
  exact ⟨congrArg descriptor, fun h => congrArg (fun d : Descriptor => { r with descriptor := d }) h⟩

/-- The lints report the same, so it does not matter which of the two comes first. -/
theorem linted_mapped (r : Run) : r.mapped.linted = r.linted.mapped := by
  have hfound : lintAll defaultLints r.mapped.descriptor = lintAll defaultLints r.descriptor :=
    lintAll_mapTypes r.descriptor
  rw [linted, hfound]
  rfl

theorem prepared_mapped (r : Run) : r.mapped.prepared = r.prepared := by
  have hprepared (r : Run) : r.prepared = (Phase.models.run r.linted.mapped).1 := rfl
  rw [hprepared, hprepared, linted_mapped, mapped_mapped]

end Run

theorem runBuiltin_of_errors {r : Run} (h : r.linted.hasErrors = true) :
    runBuiltin r = (r.linted, some (.validation r.linted.errors.length)) := by
  have hvalid : validate defaultLints r =
      (r.linted, some (.validation r.linted.errors.length)) := by
    rw [Run.linted] at h
    simp only [validate, h, if_true, Run.linted]
  rw [runBuiltin_eq_sequence]
  exact Step.andThen_of_failure hvalid

theorem runBuiltin_of_linted {r : Run} (h : r.linted.hasErrors = false) :
    runBuiltin r = ((Phase.supportingData.run (Phase.operations.run r.prepared).1).1, none) := by
  have herrors := (Run.hasErrors_eq_false_iff _).mp h
  rw [Run.linted, Run.errors_report, List.append_eq_nil_iff, lintAll_errors,
    List.map_eq_nil_iff] at herrors
  exact runBuiltin_of_templates ((Run.hasErrors_eq_false_iff r).mpr herrors.1) herrors.2

/-- Mapping types is done once and for all, and it leaves alone just what has none to map. Whether
it is done before a run or in it makes no difference: the run ends in the same way, has told the
same and has come to the same buckets and codes. Where it goes through it leaves the same
descriptor, and where it fails it has mangled nothing and each of the two is left as it was. -/
theorem runBuiltin_mapped (r : Run) :
    r.mapped.mapped = r.mapped ∧
    (r.mapped = r ↔ ∀ type ∈ r.descriptor.dataTypes, SchemaType.abap? type = none) ∧
    (runBuiltin r.mapped).2 = (runBuiltin r).2 ∧
    (runBuiltin r.mapped).1.diagnostics = (runBuiltin r).1.diagnostics ∧
    (runBuiltin r.mapped).1.naming = (runBuiltin r).1.naming ∧
    ((runBuiltin r).2 = none →
      (runBuiltin r.mapped).1.descriptor = (runBuiltin r).1.descriptor) ∧
    (∀ failure, (runBuiltin r).2 = some failure →
      (runBuiltin r).1.descriptor = r.descriptor ∧
      (runBuiltin r.mapped).1.descriptor = r.mapped.descriptor) := by
  refine ⟨r.mapped_mapped, r.mapped_eq_self_iff, ?_⟩
  cases herrors : r.linted.hasErrors with
  | true =>
    have hmapped : r.mapped.linted.hasErrors = true := by
      rw [Run.linted_mapped]
      exact herrors
    rw [runBuiltin_of_errors herrors, runBuiltin_of_errors hmapped, Run.linted_mapped]
    exact ⟨rfl, rfl, rfl, by simp, fun _ _ => ⟨rfl, rfl⟩⟩
  | false =>
    have hmapped : r.mapped.linted.hasErrors = false := by
      rw [Run.linted_mapped]
      exact herrors
    rw [runBuiltin_of_linted herrors, runBuiltin_of_linted hmapped, Run.prepared_mapped]
    exact ⟨rfl, rfl, rfl, fun _ => rfl, by simp⟩

/-- A list in the body, which is known as a table of texts in the end, and a plain number. -/
def toyShop : Descriptor where
  apis := [{
    classname := "ToyApi"
    operations := [{
      operationId := "order", path := "/orders",
      params := [{ baseName := "toys", dataType := "array", isBody := true }] }] }]
  models := [{
    name := "Toy", classname := "Toy", vars := [{ baseName := "price", dataType := "number" }] }]

theorem runBuiltin_mapped_toyShop :
    (Run.start toyShop {}).mapped ≠ Run.start toyShop {} ∧
    (runBuiltin (Run.start toyShop {})).2 = none ∧
    (runBuiltin (Run.start toyShop {}).mapped).2 = none ∧
    (runBuiltin (Run.start toyShop {}).mapped).1.descriptor =
      (runBuiltin (Run.start toyShop {})).1.descriptor := by
  have hkey : ¬ ∀ type ∈ toyShop.dataTypes, SchemaType.abap? type = none := by decide
  have hdone : (runBuiltin (Run.start toyShop {})).2 = none := by decide +kernel
  obtain ⟨-, halone, hfailure, -, -, hdescriptor, -⟩ := runBuiltin_mapped (Run.start toyShop {})
  exact ⟨fun h => hkey (halone.mp h), hdone, hfailure.trans hdone, hdescriptor hdone⟩

end AbapNaming
