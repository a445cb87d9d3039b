import AbapNaming.Phase.TypeMapping

/-! # What the mapping of types does

No ABAP type of the table is one of its keys, so the mapping leaves a mapped descriptor alone, and
any other one just where none of its types is a key.
-/

namespace AbapNaming

namespace SchemaType

theorem abap?_toAbap (name : String) : abap? (toAbap name) = none := by
  have htable : ∀ e ∈ table, abap? e.2 = none := by decide
  rw [toAbap]
  cases h : abap? name with
  | none => exact h
  | some type =>
    obtain ⟨earlier, later, hsplit, -⟩ := List.lookup_eq_some_iff.mp h
    refine htable (name, type) ?_
    rw [hsplit]
    exact List.mem_append_right _ List.mem_cons_self

theorem toAbap_eq_self_iff (name : String) : toAbap name = name ↔ abap? name = none := by
  constructor
  · intro h
    rw [← h]
    exact abap?_toAbap name
  · intro h
    rw [toAbap, h, Option.getD_none]

end SchemaType

theorem map_eq_self_iff {α : Type} {f : α → α} {as : List α} :
    as.map f = as ↔ ∀ a ∈ as, f a = a := by
  calc as.map f = as
      ↔ as.map f = as.map id := by rw [List.map_id]
    _ ↔ ∀ a ∈ as, f a = a := List.map_inj_left

theorem Parameter.mapType_eq_self_iff (p : Parameter) :
    p.mapType = p ↔ SchemaType.abap? p.dataType = none := by
  rw [← SchemaType.toAbap_eq_self_iff]
  exact ⟨congrArg dataType, fun h => by rw [mapType, h]⟩

theorem Property.mapType_eq_self_iff (p : Property) :
    p.mapType = p ↔ SchemaType.abap? p.dataType = none := by
  rw [← SchemaType.toAbap_eq_self_iff]
  exact ⟨congrArg dataType, fun h => by rw [mapType, h]⟩

def Operation.dataTypes (o : Operation) : List String := o.params.map (·.dataType)

def ApiGroup.dataTypes (a : ApiGroup) : List String := a.operations.flatMap Operation.dataTypes

def Model.dataTypes (m : Model) : List String := m.vars.map (·.dataType)

def Descriptor.dataTypes (d : Descriptor) : List String :=
  d.apis.flatMap ApiGroup.dataTypes ++ d.models.flatMap Model.dataTypes

theorem Operation.mapTypes_eq_self_iff (o : Operation) :
    o.mapTypes = o ↔ ∀ type ∈ o.dataTypes, SchemaType.abap? type = none := by
  have hparams : o.mapTypes = o ↔ o.params.map Parameter.mapType = o.params :=
    ⟨congrArg params, fun h => by rw [mapTypes, h]⟩
  simp only [hparams, map_eq_self_iff, Parameter.mapType_eq_self_iff, dataTypes, List.forall_mem_map]

theorem ApiGroup.mapTypes_eq_self_iff (a : ApiGroup) :
    a.mapTypes = a ↔ ∀ type ∈ a.dataTypes, SchemaType.abap? type = none := by
  have hoperations : a.mapTypes = a ↔ a.operations.map Operation.mapTypes = a.operations :=
    ⟨congrArg operations, fun h => by rw [mapTypes, h]⟩
  simp only [hoperations, map_eq_self_iff, Operation.mapTypes_eq_self_iff, dataTypes,
    List.forall_mem_flatMap]

theorem Model.mapTypes_eq_self_iff (m : Model) :
    m.mapTypes = m ↔ ∀ type ∈ m.dataTypes, SchemaType.abap? type = none := by
  have hvars : m.mapTypes = m ↔ m.vars.map Property.mapType = m.vars :=
    ⟨congrArg vars, fun h => by rw [mapTypes, h]⟩
  simp only [hvars, map_eq_self_iff, Property.mapType_eq_self_iff, dataTypes, List.forall_mem_map]

/-- The mapping leaves a descriptor alone exactly if no type in it is a key of the table. -/
theorem Descriptor.mapTypes_eq_self_iff (d : Descriptor) :
    d.mapTypes = d ↔ ∀ type ∈ d.dataTypes, SchemaType.abap? type = none := by
  have hlists : d.mapTypes = d ↔
      d.apis.map ApiGroup.mapTypes = d.apis ∧ d.models.map Model.mapTypes = d.models := by
    constructor
    · intro h
      exact ⟨congrArg apis h, congrArg models h⟩
    · rintro ⟨hapis, hmodels⟩
      rw [mapTypes, hapis, hmodels]
  simp only [hlists, map_eq_self_iff, ApiGroup.mapTypes_eq_self_iff, Model.mapTypes_eq_self_iff,
    dataTypes, List.forall_mem_append, List.forall_mem_flatMap]

theorem Descriptor.dataTypes_mapTypes (d : Descriptor) :
    d.mapTypes.dataTypes = d.dataTypes.map SchemaType.toAbap := by
  simp only [dataTypes, mapTypes, ApiGroup.dataTypes, ApiGroup.mapTypes, Operation.dataTypes,
    Operation.mapTypes, Model.dataTypes, Model.mapTypes, List.flatMap_map, List.map_append,
    List.map_flatMap, List.map_map]
  rfl

/-- Once types have been mapped, none of them is a key of the table. -/
theorem Descriptor.mapTypes_mapTypes (d : Descriptor) : d.mapTypes.mapTypes = d.mapTypes := by
  rw [mapTypes_eq_self_iff, dataTypes_mapTypes, List.forall_mem_map]
  exact fun type _ => SchemaType.abap?_toAbap type

end AbapNaming
