import AbapNaming.Proofs.TypeCodes.Uses

/-! # How a record is renamed

Between the mapping of types and the last edit of a record lie many small steps. Here they are put
together: what comes out of each record is told from the record as it was read, with the uses of
types that it has.
-/

namespace AbapNaming

/-- What an editor does for a field: it asks for a code or leaves the table alone. -/
def TypeUse.settle (e : Editor) : TypeUse → String × Editor
  | .kept text => (text, e)
  | .coded name => e.intern name

theorem Editor.internData_eq (e : Editor) (type : String) :
    e.internData type = TypeUse.settle e
      (if type.isEmpty || SchemaType.isBuiltin type then .kept type else .coded type) := by
  rw [internData]
  by_cases h : (type.isEmpty || SchemaType.isBuiltin type) = true
  · rw [if_pos h, if_pos h, TypeUse.settle]
  · rw [if_neg h, if_neg h, TypeUse.settle]

theorem Editor.internReference_eq (e : Editor) (type : String) :
    e.internReference type = TypeUse.settle e
      (if SchemaType.isBuiltin type then .kept type
      else if type = "string" then .kept "STRING"
      else .coded type) := by
  rw [internReference]
  by_cases hbuiltin : SchemaType.isBuiltin type = true
  · rw [if_pos hbuiltin, if_pos hbuiltin, TypeUse.settle]
  · rw [if_neg hbuiltin, if_neg hbuiltin]
    by_cases htext : type = "string"
    · rw [if_pos htext, if_pos htext, TypeUse.settle]
    · rw [if_neg htext, if_neg htext, TypeUse.settle]

theorem Operation.renameReturn_eq (e : Editor) (o : Operation) :
    o.renameReturn e = o.returnUse.settle e := by
  rw [renameReturn, returnUse]
  cases o.returnType with
  | none => rfl
  | some type =>
    by_cases h : (o.hasProduces && !type.isEmpty) = true
    · simp only [h, if_true, TypeUse.settle]
    · simp only [h, TypeUse.settle]
      rfl

/-- A property gets its type, then its name, then the type that it refers to. -/
theorem Property.rename_mapType (location : String) (e : Editor) (p : Property) :
    let data := p.dataUse.settle e
    let named := data.2.edit modelsPhase (location ++ ".vars." ++ p.baseName) p.baseName
      Role.plain.tag
    let written (complexType : Option String) (e : Editor) : Property × Editor :=
      ({ p with
          baseName := named.1
          dataType := data.1
          complexType
          description := some (e.naming.remark p.unescapedDescription) }, e)
    rename location e p.mapType =
      match p.referenceUse? with
      | none => written none named.2
      | some use => written (some (use.settle named.2).1) (use.settle named.2).2 := by
  have hsettle : e.internData p.mapType.dataType = p.dataUse.settle e := e.internData_eq _
  have hsame : p.mapType.complexType = p.complexType := rfl
  simp only [rename, hsettle, hsame, referenceUse?, Editor.internReference_eq]
  cases p.complexType <;> rfl

theorem Model.vars_withOwnNames (m : Model) : m.withOwnNames.vars = m.vars := by
  rw [withOwnNames]
  split <;> rfl

theorem Model.location_withOwnNames (m : Model) : m.withOwnNames.location = m.location := by
  rw [withOwnNames]
  split <;> rfl

theorem Model.withOwnNames_mapTypes (m : Model) :
    m.mapTypes.withOwnNames = m.withOwnNames.mapTypes := by
  have hinline : m.mapTypes.isInline = m.isInline := rfl
  rw [withOwnNames, withOwnNames, hinline]
  split <;> rfl

theorem Model.rename_mapTypes (e : Editor) (m : Model) :
    let vars := AbapNaming.mapThrough (Property.rename m.location) e (m.vars.map Property.mapType)
    let own := vars.2.intern m.withOwnNames.typeName
    rename e m.mapTypes = ({ m.withOwnNames with vars := vars.1, typeCode := some own.1 }, own.2) := by
  have hlocation : m.withOwnNames.mapTypes.location = m.location := m.location_withOwnNames
  have hvars : m.withOwnNames.mapTypes.vars = m.vars.map Property.mapType := by
    rw [mapTypes, vars_withOwnNames]
  have hname : m.withOwnNames.mapTypes.typeName = m.withOwnNames.typeName := rfl
  simp only [rename, withOwnNames_mapTypes, hlocation, hvars, hname]
  rfl

theorem Parameter.withTable_eq (p : Parameter) :
    p.withTable = { p with dataType := p.withTable.dataType } := by
  rw [withTable]
  split <;> rfl

/-- What a parameter gets for its type if that is not mapped first. -/
def Parameter.useAsIs (p : Parameter) : TypeUse :=
  if p.placement = .body ∧ ¬ p.withTable.dataType.isEmpty then .coded p.withTable.dataType
  else .kept p.withTable.dataType

/-- Query and path parameters get a second identifier, bodies a code and others neither. -/
theorem Parameter.rename_eq (operation : String) (e : Editor) (p : Parameter) :
    let named := e.edit operationsPhase (p.locationIn operation) p.baseName Role.plain.tag
    rename operation e p =
      match Role.ofParameter? p.placement p.isArray with
      | some role =>
        let edited := named.2.edit operationsPhase (p.locationIn operation) p.baseName role.tag
        ({ p with baseName := edited.1, paramName := named.1, dataType := p.withTable.dataType },
          edited.2)
      | none =>
        let settled := p.useAsIs.settle named.2
        ({ p with paramName := named.1, dataType := settled.1 }, settled.2) := by
  have hplacement (paramName : String) :
      ({ p with paramName, dataType := p.withTable.dataType } : Parameter).placement =
        p.placement := rfl
  rw [rename, useAsIs, withTable_eq]
  simp only [hplacement]
  cases Role.ofParameter? p.placement p.isArray with
  | some role => rfl
  | none =>
    by_cases hbody : p.placement = .body ∧ ¬ p.withTable.dataType.isEmpty
    · simp only [if_pos hbody]
      rfl
    · simp only [if_neg hbody]
      rfl

theorem Parameter.withTable_mapType (p : Parameter) :
    p.mapType.withTable = { p with dataType := p.requestType } := by
  rw [withTable, requestType, mapType]
  split <;> rfl

theorem Role.placement_ne_body {placement : Placement} {isArray : Bool} {role : Role}
    (h : Role.ofParameter? placement isArray = some role) : placement ≠ .body := by
  rintro rfl
  exact absurd h (by simp [Role.ofParameter?])

theorem Parameter.typeUse_of_role {p : Parameter} {role : Role}
    (h : Role.ofParameter? p.placement p.isArray = some role) : p.typeUse = .kept p.requestType := by
  rw [typeUse, if_neg fun hbody => Role.placement_ne_body h hbody.1]

/-- The same for a parameter whose type has been mapped, told from the one that was read. -/
theorem Parameter.rename_mapType (operation : String) (e : Editor) (p : Parameter) :
    let named := e.edit operationsPhase (p.locationIn operation) p.baseName Role.plain.tag
    rename operation e p.mapType =
      match Role.ofParameter? p.placement p.isArray with
      | some role =>
        let edited := named.2.edit operationsPhase (p.locationIn operation) p.baseName role.tag
        ({ p with baseName := edited.1, paramName := named.1, dataType := p.requestType }, edited.2)
      | none =>
        let settled := p.typeUse.settle named.2
        ({ p with paramName := named.1, dataType := settled.1 }, settled.2) := by
  have htable : p.mapType.withTable.dataType = p.requestType := by rw [withTable_mapType]
  have huse : p.mapType.useAsIs = p.typeUse := by
    rw [useAsIs, htable]
    rfl
  have hplace : Role.ofParameter? p.mapType.placement p.mapType.isArray =
    Role.ofParameter? p.placement p.isArray := rfl
  simp only [rename_eq, htable, huse, hplace]
  rfl

end AbapNaming
