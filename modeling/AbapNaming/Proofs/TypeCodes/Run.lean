import AbapNaming.Proofs.Pipeline.Written
import AbapNaming.Proofs.TypeCodes.Stream

/-! # The type codes of a run

From the first property to the last parameter, a run asks for the names that the descriptor has at
their places. At the end all fields hold the codes of one table.
-/

namespace AbapNaming

open TypeCodes

/-- The calls ask for the codes of these names, in this order, and for no others. -/
def Asks (calls : List Call) (names : List String) : Prop :=
  ∀ (n : Naming) (stream : List String), n.types = ofStream stream →
    (n.after calls).types = ofStream (stream ++ names)

namespace Asks

variable {calls more : List Call} {names others : List String}

theorem nil : Asks [] [] := by
  intro n stream hn
  rw [List.append_nil]
  exact hn

theorem append (h : Asks calls names) (h' : Asks more others) :
    Asks (calls ++ more) (names ++ others) := by
  intro n stream hn
  rw [Naming.after_append, ← List.append_assoc]
  exact h' _ _ (h n stream hn)

theorem ofName (role : Role) (name : String) : Asks [.ofName role name] [] := by
  intro n stream hn
  rw [List.append_nil]
  exact (n.types_edit name role.tag).trans hn

theorem path (path : String) : Asks [.path path] [] := by
  intro n stream hn
  rw [List.append_nil]
  exact (n.types_call_path path).trans hn

theorem ofType (type : String) : Asks [.ofType type] [type] := by
  intro n stream hn
  have hassign : (n.after [.ofType type]).types = (n.types.assign type Role.typeCode.tag).2 := rfl
  rw [hassign, hn, assign_ofStream]

theorem flatMap {α : Type} {calls : α → List Call} {names : α → List String}
    (h : ∀ a, Asks (calls a) (names a)) (as : List α) : Asks (as.flatMap calls) (as.flatMap names) := by
  induction as with
  | nil => exact nil
  | cons a as ih => exact (h a).append ih

theorem ofTypes (names : List String) : Asks (names.map .ofType) names := by
  induction names with
  | nil => exact nil
  | cons name names ih => exact (ofType name).append ih

end Asks

theorem Property.asks (p : Property) : Asks p.calls p.typeNames :=
  (Asks.ofTypes p.dataUse.names).append ((Asks.ofName .plain p.baseName).append (.ofTypes _))

theorem Model.asks (m : Model) : Asks m.calls m.typeNames :=
  (Asks.flatMap Property.asks m.vars).append (.ofType _)

theorem Parameter.asks (p : Parameter) : Asks p.calls p.typeNames := by
  have hrequest : Asks ((Role.ofParameter? p.placement p.isArray).toList.map
      (Call.ofName · p.baseName)) [] := by
    cases Role.ofParameter? p.placement p.isArray with
    | none => exact .nil
    | some role => exact .ofName role p.baseName
  exact (Asks.ofName .plain p.baseName).append (hrequest.append (.ofTypes _))

theorem Operation.asks (o : Operation) : Asks o.calls o.typeNames := by
  have hfields : Asks o.fieldCalls o.typeNames :=
    (Asks.ofName .plain o.operationId).append ((Asks.ofName .plain o.baseName).append
      ((Asks.ofTypes _).append (.flatMap Parameter.asks o.params)))
  have hcalls := hfields.append (.path o.path)
  rwa [List.append_nil] at hcalls

theorem ApiGroup.asks (a : ApiGroup) : Asks a.calls a.typeNames :=
  (Asks.ofName .plain a.classname).append (.flatMap Operation.asks a.operations)

theorem Descriptor.asks (d : Descriptor) : Asks d.calls d.typeNames :=
  (Asks.flatMap Model.asks d.models).append (.flatMap ApiGroup.asks d.apis)

theorem Naming.typeCode_eq_codeIn {n : Naming} {names : List String}
    (hn : n.types = ofStream names) : n.typeCode = codeIn names := by
  funext type
  have hassign : n.typeCode type = (n.types.assign type Role.typeCode.tag).1 := rfl
  rw [hassign, hn, assign_ofStream, codeIn_concat]

theorem Model.types_writtenBy (n : Naming) (m : Model) :
    (m.writtenBy n).types = m.codedTypes n.typeCode := by
  rw [types, codedTypes, writtenBy, List.map_map]
  rfl

theorem Operation.types_writtenBy (n : Naming) (o : Operation) :
    (o.writtenBy n).types = o.codedTypes n.typeCode := by
  rw [types, codedTypes, writtenBy, List.map_map]
  rfl

theorem ApiGroup.types_writtenBy (n : Naming) (a : ApiGroup) :
    (a.writtenBy n).types = a.codedTypes n.typeCode := by
  rw [types, codedTypes, writtenBy, List.map_map]
  exact List.map_congr_left fun o _ => o.types_writtenBy n

/-- A step that starts with the table of `names`, asks for `asked` and leaves `value` and `e`.
The value is what `written` makes of the codes, in every table from then on. -/
structure Codes (names asked : List String) (value : β) (e : Editor)
    (written : (String → String) → β) : Prop where
  table : e.naming.types = ofStream (names ++ asked)
  value_eq : ∀ later, value = written (codeIn (names ++ asked ++ later))

/-- What the two phases that give codes do to the table and the types. -/
theorem Run.codes_of_templates (d : Descriptor) (c : Config) (hd : d.pathDefects = []) :
    let models := (Run.start d c).prepared
    let operations := (Phase.operations.run models).1
    Codes [] d.typeNames (models.descriptor.models.map Model.types,
      operations.descriptor.apis.map ApiGroup.types) operations.editor fun code =>
        (d.models.map (·.codedTypes code), d.apis.map (·.codedTypes code)) := by
  intro models operations
  obtain ⟨hnaming, hwritten⟩ := Run.called_of_templates d c hd
  simp only [List.nil_append] at hnaming hwritten
  have hstart : c.naming.start.types = ofStream [] := rfl
  constructor
  · rw [hnaming]
    exact d.asks _ _ hstart
  · intro later
    -- Names that come later are asked for by calls of their own.
    have htable := (d.asks.append (.ofTypes later)) _ _ hstart
    have hcode := Naming.typeCode_eq_codeIn htable
    obtain ⟨hmodels, hapis⟩ := Prod.mk.inj (hwritten (later.map .ofType))
    rw [hmodels, hapis, List.map_map, List.map_map, List.append_assoc, ← hcode]
    exact congrArg₂ Prod.mk (List.map_congr_left fun m _ => m.types_writtenBy _)
      (List.map_congr_left fun a _ => a.types_writtenBy _)

/-- A run that starts with no codes and goes through gives codes to the names of the descriptor,
in the order of their first use, and each field for a type ends up with the code of its name. -/
theorem runBuiltin_type_codes (d : Descriptor) (c : Config) {r : Run}
    (h : runBuiltin (Run.start d c) = (r, none)) :
    r.naming.types.entries =
      d.typeNames.eraseDups.mapIdx (fun i name => (name, Role.typeCode.tag ++ suffix i)) ∧
    r.descriptor.models.map Model.types = d.models.map (·.codedTypes (codeIn d.typeNames)) ∧
    r.descriptor.apis.map ApiGroup.types = d.apis.map (·.codedTypes (codeIn d.typeNames)) := by
  have hclean : (Run.start d c).hasErrors = false := rfl
  have hdefects : d.pathDefects = [] := by
    by_contra hd
    rw [runBuiltin_of_defects hclean hd] at h
    exact absurd (congrArg Prod.snd h) (by simp)
  rw [runBuiltin_of_templates hclean hdefects] at h
  obtain ⟨htable, hwritten⟩ := Run.codes_of_templates d c hdefects
  have hvalues := hwritten []
  rw [List.nil_append, List.append_nil] at hvalues
  rw [List.nil_append] at htable
  obtain ⟨hmodels, hapis⟩ := Prod.mk.inj hvalues
  obtain rfl := (Prod.mk.inj h).1
  exact ⟨congrArg TypeCodes.entries htable, hmodels, hapis⟩

def petStore : Descriptor where
  apis := [{
    classname := "PetApi"
    operations := [
      { operationId := "findPets", path := "/pets", hasProduces := true, returnType := some "Pet",
        params := [{ baseName := "limit", dataType := "integer", isQuery := true }] },
      { operationId := "addTags", path := "/tags", returnType := some "Pet",
        params := [{ baseName := "tags", dataType := "array", isBody := true }] }] }]
  models := [
    { name := "Owner_1", classname := "Owner1", classVarName := "Owner1",
      vars := [{ baseName := "name", dataType := "string" }] },
    { name := "Pet", classname := "Pet", classVarName := "Pet",
      vars := [{ baseName := "owner", dataType := "Owner_1", complexType := some "Owner_1" },
        { baseName := "kind", dataType := "Kind", complexType := some "string" }] }]

theorem runBuiltin_petStore :
    (runBuiltin (Run.start petStore {})).2 = none ∧
    (runBuiltin (Run.start petStore {})).1.naming.types.entries =
      [("Owner_1", "ty_000"), ("Kind", "ty_001"), ("Pet", "ty_002"), ("ty_t_string", "ty_003")] ∧
    (runBuiltin (Run.start petStore {})).1.descriptor.models.map Model.types =
      [([("STRING", none)], some "ty_000"),
        ([("ty_000", some "ty_000"), ("ty_001", some "STRING")], some "ty_002")] ∧
    (runBuiltin (Run.start petStore {})).1.descriptor.apis.map ApiGroup.types =
      [[(some "ty_002", ["int4"]), (some "string", ["ty_003"])]] := by
  have hdone : (runBuiltin (Run.start petStore {})).2 = none := by decide +kernel
  obtain ⟨htable, hmodels, hapis⟩ := runBuiltin_type_codes petStore {} (Step.eq_of_done hdone)
  refine ⟨hdone, htable.trans ?_, hmodels.trans ?_, hapis.trans ?_⟩ <;> decide +kernel

end AbapNaming
