import AbapNaming.Proofs.Pipeline.Written

/-! # The identifiers of a run

Since every state from an edit on makes the same of its name, the last one explains all identifiers
of the outcome: each is what that state makes of the name that stood in its place.
-/

namespace AbapNaming

/-- What a parameter is called, and where it is placed. -/
structure ParameterNames where
  placement : Placement
  paramName : String
  baseName : String
deriving DecidableEq, Repr

/-- What an operation and its parts are called. -/
structure OperationNames where
  operationId : String
  baseName : String
  params : List ParameterNames
  path : String
deriving DecidableEq, Repr

structure GroupNames where
  classname : String
  operations : List OperationNames
deriving DecidableEq, Repr

def Property.identifierBy (n : Naming) (p : Property) : String := n.identifier .plain p.baseName

namespace Model

def identifiers (m : Model) : List String := m.vars.map (·.baseName)

def identifiersBy (n : Naming) (m : Model) : List String := m.vars.map (Property.identifierBy n)

theorem identifiers_writtenBy (n : Naming) (m : Model) :
    (m.writtenBy n).identifiers = m.identifiersBy n :=
  List.map_map

end Model

namespace Parameter

def names (p : Parameter) : ParameterNames := ⟨p.placement, p.paramName, p.baseName⟩

def namesBy (n : Naming) (p : Parameter) : ParameterNames where
  placement := p.placement
  paramName := n.identifier .plain p.baseName
  baseName := ((Role.ofParameter? p.placement p.isArray).map (n.identifier · p.baseName)).getD
    p.baseName

end Parameter

namespace Operation

def names (o : Operation) : OperationNames :=
  ⟨o.operationId, o.baseName, o.params.map Parameter.names, o.path⟩

def namesBy (n : Naming) (o : Operation) : OperationNames where
  operationId := n.identifier .plain o.operationId
  baseName := n.identifier .plain o.baseName
  params := o.params.map (Parameter.namesBy n)
  path := n.rendered o.path

theorem names_writtenBy (n : Naming) (o : Operation) : (o.writtenBy n).names = o.namesBy n := by
  rw [names, namesBy, writtenBy, List.map_map]
  rfl

end Operation

namespace ApiGroup

def names (a : ApiGroup) : GroupNames := ⟨a.classname, a.operations.map Operation.names⟩

def namesBy (n : Naming) (a : ApiGroup) : GroupNames where
  classname := n.identifier .plain a.classname
  operations := a.operations.map (Operation.namesBy n)

theorem names_writtenBy (n : Naming) (a : ApiGroup) : (a.writtenBy n).names = a.namesBy n := by
  rw [names, namesBy, writtenBy, List.map_map]
  exact congrArg (GroupNames.mk _) (List.map_congr_left fun o _ => o.names_writtenBy n)

end ApiGroup

theorem Operation.mem_calls_of_mem {d : Descriptor} {a : ApiGroup} {o : Operation} {call : Call}
    (ha : a ∈ d.apis) (ho : o ∈ a.operations) (hcall : call ∈ o.calls) : call ∈ d.calls := by
  have hgroup : call ∈ a.calls := List.mem_append_right _ (List.mem_flatMap_of_mem ho hcall)
  exact List.mem_append_right _ (List.mem_flatMap_of_mem ha hgroup)

theorem exists_getElem?_of_map_eq {α β : Type} {as as' : List α} {names written : α → β}
    (h : as'.map names = as.map written) {i : Nat} {a : α} (ha : as[i]? = some a) :
    ∃ a', as'[i]? = some a' ∧ names a' = written a := by
  have hi := congrArg (·[i]?) h
  simp only [List.getElem?_map, ha, Option.map_some] at hi
  exact Option.map_eq_some_iff.mp hi

/-- A run that goes through has made all calls of the descriptor, and everything in it is called
what the last state makes of its name. -/
theorem runBuiltin_names {d : Descriptor} {c : Config} {r : Run}
    (h : runBuiltin (Run.start d c) = (r, none)) :
    r.naming = c.naming.start.after d.calls ∧
    r.descriptor.models.map Model.identifiers = d.models.map (·.identifiersBy r.naming) ∧
    r.descriptor.apis.map ApiGroup.names = d.apis.map (·.namesBy r.naming) := by
  rw [runBuiltin_descriptor h, Run.writtenBy, List.map_map, List.map_map]
  exact ⟨(runBuiltin_written h).1, List.map_congr_left fun m _ => m.identifiers_writtenBy r.naming,
    List.map_congr_left fun a _ => a.names_writtenBy r.naming⟩

section

variable {d : Descriptor} {c : Config} {r : Run} (h : runBuiltin (Run.start d c) = (r, none))

include h

theorem runBuiltin_keyed : r.naming.buckets.Keyed := by
  rw [(runBuiltin_names h).1]
  exact Naming.keyed_after_start _ _ _

theorem runBuiltin_replacements (hplain : c.naming.replacements = []) :
    r.naming.reserved.replacements = [] := by
  rw [(runBuiltin_names h).1, (Naming.extends_after _ _).reserved_eq]
  exact NamingSettings.replacements_reserved hplain

theorem runBuiltin_holds {role : Role} {name : String} (hcall : .ofName role name ∈ d.calls) :
    r.naming.Holds (Naming.candidate name role.tag) := by
  rw [(runBuiltin_names h).1]
  exact Naming.holds_after hcall

end

/-- A run without chosen spellings reserves the keywords and its own words. -/
theorem Run.start_of_words (d : Descriptor) (limits : Limits) (words : List String) :
    Run.start d { naming := { limits, reservedWords := words } } =
      ⟨d, { naming := { limits, reservedWords := words } },
        Naming.start limits (Reserved.addWords ⟨abapKeywords, []⟩ words), []⟩ := by
  rw [Run.start, NamingSettings.start_of_words]

end AbapNaming
