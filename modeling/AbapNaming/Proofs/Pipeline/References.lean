import AbapNaming.Proofs.Pipeline.Identifiers
import AbapNaming.Proofs.TypeCodes.Run

/-! # References to models

A field that names a type gets the code of that name, and a model the code of the name its type is
known under. For a model that is not inline this is its class name, by which it is referred to,
unless it has a variable name of its own: then the references carry another code than the model.
-/

namespace AbapNaming

open TypeCodes

/-- A field for a type, by the places that lead to it. -/
inductive TypeField
  | data (model property : Nat)
  | reference (model property : Nat)
  | result (group operation : Nat)
  | parameter (group operation parameter : Nat)
deriving DecidableEq, Repr

namespace Descriptor

def property? (d : Descriptor) (i j : Nat) : Option Property := d.models[i]?.bind (·.vars[j]?)

def operation? (d : Descriptor) (i j : Nat) : Option Operation := d.apis[i]?.bind (·.operations[j]?)

def parameter? (d : Descriptor) (i j k : Nat) : Option Parameter :=
  (d.operation? i j).bind (·.params[k]?)

def typeAt? (d : Descriptor) : TypeField → Option String
  | .data i j => (d.property? i j).map (·.dataType)
  | .reference i j => (d.property? i j).bind (·.complexType)
  | .result i j => (d.operation? i j).bind (·.returnType)
  | .parameter i j k => (d.parameter? i j k).map (·.dataType)

/-- Are there codes for a type in this field? Results need media types, and only bodies have
types of their own. -/
def isCodedAt (d : Descriptor) : TypeField → Bool
  | .data _ _ => true
  | .reference _ _ => true
  | .result i j => (d.operation? i j).any (·.hasProduces)
  | .parameter i j k => (d.parameter? i j k).any fun p => decide (p.placement = .body)

def useAt? (d : Descriptor) : TypeField → Option TypeUse
  | .data i j => (d.property? i j).map Property.dataUse
  | .reference i j => (d.property? i j).bind Property.referenceUse?
  | .result i j => (d.operation? i j).map Operation.returnUse
  | .parameter i j k => (d.parameter? i j k).map Parameter.typeUse

/-- The field refers to the type of this name. -/
def Refers (d : Descriptor) (f : TypeField) (name : String) : Prop :=
  d.typeAt? f = some name ∧ d.isCodedAt f = true

instance (d : Descriptor) (f : TypeField) (name : String) : Decidable (d.Refers f name) :=
  inferInstanceAs (Decidable (_ ∧ _))

end Descriptor

/-- The name stands for a model and for no plain type. -/
structure SchemaType.IsModel (name : String) : Prop where
  ne_empty : name ≠ ""
  not_mapped : abap? name = none
  not_builtin : isBuiltin name = false

namespace SchemaType.IsModel

variable {name : String} (h : IsModel name)

include h

theorem toAbap_eq : toAbap name = name := by
  rw [toAbap, h.not_mapped, Option.getD_none]

theorem ne_string : name ≠ "string" := by
  rintro rfl
  exact absurd h.not_mapped (by decide)

theorem ne_untypedTable : name ≠ untypedTable := by
  rintro rfl
  exact absurd h.not_builtin (by decide)

theorem dataUse_eq {p : Property} (hp : p.dataType = name) : p.dataUse = .coded name := by
  rw [Property.dataUse, hp, h.toAbap_eq]
  simp [h.ne_empty, h.not_builtin]

theorem referenceUse?_eq {p : Property} (hp : p.complexType = some name) :
    p.referenceUse? = some (.coded name) := by
  rw [Property.referenceUse?, hp, Option.map_some]
  simp [h.ne_string, h.not_builtin]

theorem returnUse_eq {o : Operation} (hproduces : o.hasProduces = true)
    (ho : o.returnType = some name) : o.returnUse = .coded name := by
  rw [Operation.returnUse, ho]
  simp [hproduces, h.ne_empty]

theorem typeUse_eq {p : Parameter} (hbody : p.placement = .body) (hp : p.dataType = name) :
    p.typeUse = .coded name := by
  have hrequest : p.requestType = name := by
    simp only [Parameter.requestType, hp, h.toAbap_eq, if_neg h.ne_untypedTable]
  rw [Parameter.typeUse, hrequest, if_pos ⟨hbody, by simp [h.ne_empty]⟩]

end SchemaType.IsModel

namespace Descriptor

variable {d : Descriptor} {f : TypeField} {name : String}

theorem useAt?_of_refers (hmodel : SchemaType.IsModel name) (h : d.Refers f name) :
    d.useAt? f = some (.coded name) := by
  obtain ⟨htype, hcoded⟩ := h
  cases f with
  | data i j =>
    obtain ⟨p, hp, hname⟩ := Option.map_eq_some_iff.mp htype
    rw [useAt?, hp, Option.map_some, hmodel.dataUse_eq hname]
  | reference i j =>
    obtain ⟨p, hp, hname⟩ := Option.bind_eq_some_iff.mp htype
    rw [useAt?, hp, Option.bind_some, hmodel.referenceUse?_eq hname]
  | result i j =>
    obtain ⟨o, ho, hname⟩ := Option.bind_eq_some_iff.mp htype
    rw [isCodedAt, ho, Option.any_some] at hcoded
    rw [useAt?, ho, Option.map_some, hmodel.returnUse_eq hcoded hname]
  | parameter i j k =>
    obtain ⟨p, hp, hname⟩ := Option.map_eq_some_iff.mp htype
    rw [isCodedAt, hp, Option.any_some] at hcoded
    rw [useAt?, hp, Option.map_some, hmodel.typeUse_eq (of_decide_eq_true hcoded) hname]

theorem mem_typeNames_of_property {i j : Nat} {p : Property} (hp : d.property? i j = some p)
    (hname : name ∈ p.typeNames) : name ∈ d.typeNames := by
  obtain ⟨m, hm, hp⟩ := Option.bind_eq_some_iff.mp hp
  have hmodel : name ∈ m.typeNames :=
    List.mem_append_left _ (List.mem_flatMap_of_mem (List.mem_of_getElem? hp) hname)
  exact List.mem_append_left _ (List.mem_flatMap_of_mem (List.mem_of_getElem? hm) hmodel)

theorem mem_typeNames_of_operation {i j : Nat} {o : Operation} (ho : d.operation? i j = some o)
    (hname : name ∈ o.typeNames) : name ∈ d.typeNames := by
  obtain ⟨a, ha, ho⟩ := Option.bind_eq_some_iff.mp ho
  have hgroup : name ∈ a.typeNames := List.mem_flatMap_of_mem (List.mem_of_getElem? ho) hname
  exact List.mem_append_right _ (List.mem_flatMap_of_mem (List.mem_of_getElem? ha) hgroup)

theorem mem_typeNames_of_useAt? (h : d.useAt? f = some (.coded name)) : name ∈ d.typeNames := by
  have hself : name ∈ (TypeUse.coded name).names := List.mem_singleton_self name
  cases f with
  | data i j =>
    obtain ⟨p, hp, huse⟩ := Option.map_eq_some_iff.mp h
    refine mem_typeNames_of_property hp (List.mem_append_left _ ?_)
    rwa [huse]
  | reference i j =>
    obtain ⟨p, hp, huse⟩ := Option.bind_eq_some_iff.mp h
    refine mem_typeNames_of_property hp (List.mem_append_right _ ?_)
    rwa [huse]
  | result i j =>
    obtain ⟨o, ho, huse⟩ := Option.map_eq_some_iff.mp h
    refine mem_typeNames_of_operation ho (List.mem_append_left _ ?_)
    rwa [huse]
  | parameter i j k =>
    obtain ⟨p, hp, huse⟩ := Option.map_eq_some_iff.mp h
    obtain ⟨o, ho, hp⟩ := Option.bind_eq_some_iff.mp hp
    refine mem_typeNames_of_operation ho (List.mem_append_right _ ?_)
    refine List.mem_flatMap_of_mem (List.mem_of_getElem? hp) ?_
    rwa [Parameter.typeNames, huse]

end Descriptor

section

variable {d : Descriptor} {c : Config} {r : Run} (h : runBuiltin (Run.start d c) = (r, none))

include h

/-- All codes of a run that goes through are those of one table. -/
theorem runBuiltin_codes :
    Codes [] d.typeNames (r.descriptor.models.map Model.types,
      r.descriptor.apis.map ApiGroup.types) r.editor fun code =>
        (d.models.map (·.codedTypes code), d.apis.map (·.codedTypes code)) := by
  obtain ⟨hdefects, rfl⟩ := runBuiltin_of_done rfl h
  obtain ⟨htable, hwritten⟩ := Run.codes_of_templates d c hdefects
  exact ⟨htable, hwritten⟩

theorem runBuiltin_model {i : Nat} {m : Model} (hm : d.models[i]? = some m) :
    ∃ m', r.descriptor.models[i]? = some m' ∧ m'.types = m.codedTypes (codeIn d.typeNames) := by
  have hvalues := (runBuiltin_codes h).value_eq []
  rw [List.nil_append, List.append_nil] at hvalues
  exact exists_getElem?_of_map_eq (Prod.mk.inj hvalues).1 hm

theorem runBuiltin_property {i j : Nat} {p : Property} (hp : d.property? i j = some p) :
    ∃ p', r.descriptor.property? i j = some p' ∧ p'.types = p.codedTypes (codeIn d.typeNames) := by
  obtain ⟨m, hm, hp⟩ := Option.bind_eq_some_iff.mp hp
  obtain ⟨m', hm', htypes⟩ := runBuiltin_model h hm
  obtain ⟨p', hp', hcoded⟩ := exists_getElem?_of_map_eq (Prod.mk.inj htypes).1 hp
  exact ⟨p', Option.bind_eq_some_iff.mpr ⟨m', hm', hp'⟩, hcoded⟩

theorem runBuiltin_operation {i j : Nat} {o : Operation} (ho : d.operation? i j = some o) :
    ∃ o', r.descriptor.operation? i j = some o' ∧
      o'.types = o.codedTypes (codeIn d.typeNames) := by
  obtain ⟨a, ha, ho⟩ := Option.bind_eq_some_iff.mp ho
  have hvalues := (runBuiltin_codes h).value_eq []
  rw [List.nil_append, List.append_nil] at hvalues
  obtain ⟨a', ha', htypes⟩ := exists_getElem?_of_map_eq (Prod.mk.inj hvalues).2 ha
  obtain ⟨o', ho', hcoded⟩ := exists_getElem?_of_map_eq htypes ho
  exact ⟨o', Option.bind_eq_some_iff.mpr ⟨a', ha', ho'⟩, hcoded⟩

theorem runBuiltin_parameter {i j k : Nat} {p : Parameter} (hp : d.parameter? i j k = some p) :
    ∃ p', r.descriptor.parameter? i j k = some p' ∧
      p'.dataType = p.codedType (codeIn d.typeNames) := by
  obtain ⟨o, ho, hp⟩ := Option.bind_eq_some_iff.mp hp
  obtain ⟨o', ho', htypes⟩ := runBuiltin_operation h ho
  obtain ⟨p', hp', hcoded⟩ := exists_getElem?_of_map_eq (Prod.mk.inj htypes).2 hp
  exact ⟨p', Option.bind_eq_some_iff.mpr ⟨o', ho', hp'⟩, hcoded⟩

/-- What the run writes into a field. -/
theorem runBuiltin_typeAt? {f : TypeField} {use : TypeUse} (huse : d.useAt? f = some use) :
    r.descriptor.typeAt? f = some (use.text (codeIn d.typeNames)) := by
  cases f with
  | data i j =>
    obtain ⟨p, hp, rfl⟩ := Option.map_eq_some_iff.mp huse
    obtain ⟨p', hp', htypes⟩ := runBuiltin_property h hp
    rw [Descriptor.typeAt?, hp', Option.map_some, (Prod.mk.inj htypes).1]
  | reference i j =>
    obtain ⟨p, hp, huse⟩ := Option.bind_eq_some_iff.mp huse
    obtain ⟨p', hp', htypes⟩ := runBuiltin_property h hp
    rw [Descriptor.typeAt?, hp', Option.bind_some, (Prod.mk.inj htypes).2, huse, Option.map_some]
  | result i j =>
    obtain ⟨o, ho, rfl⟩ := Option.map_eq_some_iff.mp huse
    obtain ⟨o', ho', htypes⟩ := runBuiltin_operation h ho
    rw [Descriptor.typeAt?, ho', Option.bind_some, (Prod.mk.inj htypes).1]
  | parameter i j k =>
    obtain ⟨p, hp, rfl⟩ := Option.map_eq_some_iff.mp huse
    obtain ⟨p', hp', htype⟩ := runBuiltin_parameter h hp
    rw [Descriptor.typeAt?, hp', Option.map_some, htype, Parameter.codedType]

end

/-- A model that is not inline is known under its class name, or under its variable name if it has
one. -/
theorem Model.classname_eq_typeName_iff {m : Model} (hown : m.isInline = false)
    (hclass : m.classname ≠ "") :
    m.classname = m.withOwnNames.typeName ↔
      m.classVarName = "" ∨ m.classVarName = m.classname := by
  have hkept : m.withOwnNames = m := by rw [withOwnNames, hown, if_neg Bool.false_ne_true]
  rw [hkept, typeName]
  by_cases hvariable : m.classVarName = ""
  · simp [hvariable, hclass]
  · rw [if_pos (by simpa using hvariable), or_iff_right hvariable, eq_comm]

/-- Every reference to a model by its class name carries the code of that name. The model has the
same code exactly if it has no variable name or one that is its class name. -/
theorem runBuiltin_reference_iff {d : Descriptor} {c : Config} {r : Run}
    (h : runBuiltin (Run.start d c) = (r, none)) {i : Nat} {m : Model}
    (hm : d.models[i]? = some m) (hown : m.isInline = false)
    (hmodel : SchemaType.IsModel m.classname) {f : TypeField} (hf : d.Refers f m.classname) :
    ∃ m' code own, r.descriptor.typeAt? f = some code ∧
      r.naming.types.code? m.classname = some code ∧
      r.descriptor.models[i]? = some m' ∧ m'.typeCode = some own ∧
      (code = own ↔ m.classVarName = "" ∨ m.classVarName = m.classname) := by
  have huse := Descriptor.useAt?_of_refers hmodel hf
  have hasked := Descriptor.mem_typeNames_of_useAt? huse
  obtain ⟨m', hm', htypes⟩ := runBuiltin_model h hm
  refine ⟨m', codeIn d.typeNames m.classname, codeIn d.typeNames m.withOwnNames.typeName,
    runBuiltin_typeAt? h huse, ?_, hm', (Prod.mk.inj htypes).2, ?_⟩
  · rw [show r.naming.types = ofStream d.typeNames from (runBuiltin_codes h).table, code?_ofStream,
      if_pos hasked]
  · rw [codeIn_inj hasked, Model.classname_eq_typeName_iff hown hmodel.ne_empty]

def boardingPets : Descriptor where
  apis := [{
    classname := "BoardingApi"
    operations := [{
      operationId := "board"
      path := "/stays"
      hasProduces := true
      returnType := some "Pet"
      params := [{ baseName := "owner", dataType := "Owner", isBody := true }] }] }]
  models := [
    { name := "Owner", classname := "Owner",
      vars := [{ baseName := "pet", dataType := "Pet", complexType := some "Pet" }] },
    { name := "Pet", classname := "Pet", classVarName := "Pet",
      vars := [{ baseName := "owner", dataType := "Owner", complexType := some "Owner" }] }]

/-- The first field comes before its model, the second one long after. -/
theorem runBuiltin_reference_boardingPets :
    let r := (runBuiltin (Run.start boardingPets {})).1
    (runBuiltin (Run.start boardingPets {})).2 = none ∧
    r.descriptor.typeAt? (.reference 0 0) = some "ty_000" ∧
    r.descriptor.models[1]?.bind (·.typeCode) = some "ty_000" ∧
    r.descriptor.typeAt? (.parameter 0 0 0) = some "ty_001" ∧
    r.descriptor.models[0]?.bind (·.typeCode) = some "ty_001" := by
  intro r
  have hdone : (runBuiltin (Run.start boardingPets {})).2 = none := by decide +kernel
  have hrun : runBuiltin (Run.start boardingPets {}) = (r, none) := Step.eq_of_done hdone
  have hpet : r.descriptor.typeAt? (.reference 0 0) = some "ty_000" := by decide +kernel
  have howner : r.descriptor.typeAt? (.parameter 0 0 0) = some "ty_001" := by decide +kernel
  obtain ⟨pet, code, own, hcode, -, hmodel, hown, hiff⟩ := runBuiltin_reference_iff hrun
    (i := 1) rfl rfl ⟨by decide, rfl, rfl⟩ (f := .reference 0 0) (by decide)
  obtain ⟨owner, code', own', hcode', -, hmodel', hown', hiff'⟩ := runBuiltin_reference_iff hrun
    (i := 0) rfl rfl ⟨by decide, rfl, rfl⟩ (f := .parameter 0 0 0) (by decide)
  obtain rfl := hiff.mpr (.inr rfl)
  obtain rfl := hiff'.mpr (.inl rfl)
  refine ⟨hdone, hpet, ?_, howner, ?_⟩
  · rw [hmodel, Option.bind_some, hown, ← hcode, hpet]
  · rw [hmodel', Option.bind_some, hown', ← hcode', howner]

def variablePet : Descriptor where
  apis := [{
    classname := "PetApi"
    operations := [{ operationId := "getPet", path := "/pet", hasProduces := true,
                     returnType := some "Pet" }] }]
  models := [{ name := "Pet", classname := "Pet", classVarName := "pet" }]

/-- The operation's result carries another code than the model. -/
theorem runBuiltin_reference_variablePet :
    let r := (runBuiltin (Run.start variablePet {})).1
    let pet : Model := { name := "Pet", classname := "Pet", classVarName := "pet" }
    (runBuiltin (Run.start variablePet {})).2 = none ∧ variablePet.models[0]? = some pet ∧
    pet.isInline = false ∧ SchemaType.IsModel pet.classname ∧
    variablePet.Refers (.result 0 0) pet.classname ∧
    r.descriptor.typeAt? (.result 0 0) = some "ty_001" ∧
    r.descriptor.models[0]?.bind (·.typeCode) = some "ty_000" := by
  intro r pet
  refine ⟨?_, rfl, rfl, ⟨by decide, rfl, rfl⟩, by decide, ?_, ?_⟩ <;> decide +kernel

end AbapNaming
