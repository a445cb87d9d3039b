import AbapNaming.Proofs.Naming.Answers
import AbapNaming.Proofs.Phase.Renaming
import AbapNaming.Proofs.Pipeline.AllOrNothing
import AbapNaming.Proofs.Pipeline.Trace

/-! # What a run writes

Which calls a run makes, and in what order, can be told from the descriptor as it was read. Since
every state from a call on answers it the same way, the last one explains all that was written:
each record of the outcome is what that state makes of the one that stood in its place.
-/

namespace AbapNaming

open PathTemplate

def Call.ofName (role : Role) (name : String) : Call := .edit name role.tag

def Call.ofType (type : String) : Call := .intern type Role.typeCode.tag

/-- The code that a state gives a type. -/
def Naming.typeCode (n : Naming) (type : String) : String := (n.intern type Role.typeCode.tag).1

theorem Naming.Grows.typeCode_eq {n n' : Naming} {type : String}
    (h : (n.call (.ofType type)).Grows n') : n'.typeCode type = n.typeCode type :=
  Answer.code.inj (h.answer_eq (.intern type Role.typeCode.tag Role.typeCode.tag))

/-- A step of a run of calls that began in the state `n`. -/
abbrev Called {β : Type} (n : Naming) (before asked : List Call) (value : β) (e : Editor)
    (written : Naming → β) : Prop :=
  Traced (fun calls (e : Editor) => e.naming = n.after calls) n.after before asked value e written

namespace Called

variable {n : Naming} {before : List Call} {e : Editor}

theorem edit (phase location : String) (role : Role) (name : String)
    (he : e.naming = n.after before) :
    Called n before [.ofName role name] (e.edit phase location name role.tag).1
      (e.edit phase location name role.tag).2 (·.identifier role name) where
  reached := by
    rw [Naming.after_append, ← he]
    rfl
  value_eq later := by
    have hlater := Naming.extends_after (e.naming.edit name role.tag).2 later
    rw [Naming.after_append, Naming.after_append, ← he]
    exact hlater.identifier_eq.symm

theorem settle (u : TypeUse) (he : e.naming = n.after before) :
    Called n before (u.names.map .ofType) (u.settle e).1 (u.settle e).2
      fun n => u.text n.typeCode := by
  cases u with
  | kept text => exact Traced.kept text he
  | coded type =>
    constructor
    · rw [Naming.after_append, ← he]
      rfl
    · intro later
      have hlater := Naming.grows_after (e.naming.call (.ofType type)) later
      rw [Naming.after_append, Naming.after_append, ← he]
      exact hlater.typeCode_eq.symm

/-- A remark is cut by a limit of the run, which no call changes. -/
theorem remark (description : Option String) (he : e.naming = n.after before) :
    Called n before [] (e.naming.remark description) e (·.remark description) where
  reached := by rw [he, List.append_nil]
  value_eq later := by
    have hlimits := (Naming.extends_after (n.after before) later).limits_eq
    rw [List.append_nil, Naming.after_append, Naming.remark, Naming.remark, hlimits, he]

theorem path {path text : String} {naming : Naming}
    (hrendered : e.naming.renderPath path = .ok (text, naming)) (he : e.naming = n.after before) :
    Called n before [.path path] text { e with naming } (·.rendered path) := by
  have haccepted := Naming.accepts_of_renderPath hrendered
  have hstate : n.after (before ++ [.path path]) = e.naming.call (.path path) := by
    rw [Naming.after_append, ← he]
    rfl
  constructor
  · have hnow := (Naming.Extends.refl (e.naming.call (.path path))).renderPath_eq haccepted
    rw [hrendered, Except.ok.injEq, Prod.mk.injEq] at hnow
    rw [hstate]
    exact hnow.2
  · intro later
    have hlater := (Naming.extends_after (e.naming.call (.path path)) later).renderPath_eq haccepted
    rw [hrendered, Except.ok.injEq, Prod.mk.injEq] at hlater
    rw [Naming.after_append, hstate]
    exact hlater.1

end Called

section

variable {n : Naming} {before : List Call} {e : Editor}

namespace Property

def calls (p : Property) : List Call :=
  p.dataUse.names.map .ofType ++
    ([.ofName .plain p.baseName] ++ ((p.referenceUse?.map TypeUse.names).getD []).map .ofType)

def writtenBy (n : Naming) (p : Property) : Property :=
  { p with
    baseName := n.identifier .plain p.baseName
    dataType := p.dataUse.text n.typeCode
    complexType := p.referenceUse?.map (TypeUse.text n.typeCode)
    description := some (n.remark p.unescapedDescription) }

theorem rename_called (location : String) (he : e.naming = n.after before) (p : Property) :
    Called n before p.calls (rename location e p.mapType).1 (rename location e p.mapType).2
      (writtenBy · p) := by
  have hdata := Called.settle p.dataUse he
  have hnamed := Called.edit modelsPhase (location ++ ".vars." ++ p.baseName) .plain p.baseName
    hdata.reached
  rw [calls, rename_mapType]
  unfold writtenBy
  cases p.referenceUse? with
  | none =>
    have hremark := Called.remark p.unescapedDescription hnamed.reached
    have hfields := hdata.pair (hnamed.pair hremark)
    exact hfields.map fun v => { p with
      dataType := v.1, baseName := v.2.1, complexType := none, description := some v.2.2 }
  | some use =>
    have hreference := Called.settle use hnamed.reached
    have hremark := Called.remark p.unescapedDescription hreference.reached
    have hfields := hdata.pair (hnamed.pair (hreference.pair hremark))
    rw [List.append_nil] at hfields
    exact hfields.map fun v => { p with
      dataType := v.1, baseName := v.2.1, complexType := some v.2.2.1, description := some v.2.2.2 }

end Property

namespace Model

def calls (m : Model) : List Call :=
  m.vars.flatMap Property.calls ++ [.ofType m.withOwnNames.typeName]

def writtenBy (n : Naming) (m : Model) : Model :=
  { m.withOwnNames with
    vars := m.vars.map (Property.writtenBy n)
    typeCode := some (n.typeCode m.withOwnNames.typeName) }

theorem rename_called (he : e.naming = n.after before) (m : Model) :
    Called n before m.calls (rename e m.mapTypes).1 (rename e m.mapTypes).2 (writtenBy · m) := by
  have hproperties := Traced.mapThrough (fun _ _ p he => p.rename_called m.location he) m.vars he
  have htype := Called.settle (.coded m.withOwnNames.typeName) hproperties.reached
  rw [rename_mapTypes]
  exact (hproperties.pair htype).map fun v =>
    { m.withOwnNames with vars := v.1, typeCode := some v.2 }

end Model

namespace Parameter

/-- The calls for a parameter: one for its variable, and one for its name in the request or for
its type, if it has any. -/
def calls (p : Parameter) : List Call :=
  [.ofName .plain p.baseName] ++
    ((Role.ofParameter? p.placement p.isArray).toList.map (Call.ofName · p.baseName) ++
      p.typeUse.names.map .ofType)

def writtenBy (n : Naming) (p : Parameter) : Parameter :=
  { p with
    paramName := n.identifier .plain p.baseName
    baseName := ((Role.ofParameter? p.placement p.isArray).map (n.identifier · p.baseName)).getD
      p.baseName
    dataType := p.typeUse.text n.typeCode }

theorem rename_called (operation : String) (he : e.naming = n.after before) (p : Parameter) :
    Called n before p.calls (rename operation e p.mapType).1 (rename operation e p.mapType).2
      (writtenBy · p) := by
  have hvariable := Called.edit operationsPhase (p.locationIn operation) .plain p.baseName he
  rw [calls, rename_mapType]
  unfold writtenBy
  cases hrole : Role.ofParameter? p.placement p.isArray with
  | some role =>
    have hrequest := Called.edit operationsPhase (p.locationIn operation) role p.baseName
      hvariable.reached
    rw [typeUse_of_role hrole]
    exact (hvariable.pair hrequest).map fun v =>
      { p with paramName := v.1, baseName := v.2, dataType := p.requestType }
  | none =>
    have htype := Called.settle p.typeUse hvariable.reached
    exact (hvariable.pair htype).map fun v => { p with paramName := v.1, dataType := v.2 }

end Parameter

namespace Operation

def fieldCalls (o : Operation) : List Call :=
  [.ofName .plain o.operationId] ++ ([.ofName .plain o.baseName] ++
    (o.returnUse.names.map .ofType ++ o.params.flatMap Parameter.calls))

def calls (o : Operation) : List Call := o.fieldCalls ++ [.path o.path]

def writtenBy (n : Naming) (o : Operation) : Operation :=
  { o with
    operationId := n.identifier .plain o.operationId
    baseName := n.identifier .plain o.baseName
    path := n.rendered o.path
    returnType := some (o.returnUse.text n.typeCode)
    params := o.params.map (Parameter.writtenBy n) }

theorem renameFields_called (location : String) (he : e.naming = n.after before) (o : Operation) :
    Called n before o.fieldCalls (o.mapTypes.renameFields location e).1
      (o.mapTypes.renameFields location e).2 fun n => { o.writtenBy n with path := o.path } := by
  have hid := Called.edit operationsPhase location .plain o.operationId he
  have hstub := Called.edit operationsPhase location .plain o.baseName hid.reached
  have hreturn := Called.settle o.returnUse hstub.reached
  rw [← renameReturn_eq] at hreturn
  have hparams := Traced.mapThrough (fun _ _ p he => p.rename_called location he) o.params
    hreturn.reached
  exact (hid.pair (hstub.pair (hreturn.pair hparams))).map fun v => { o with
    operationId := v.1, baseName := v.2.1, returnType := some v.2.2.1, params := v.2.2.2 }

theorem rename_called (group : String) (he : e.naming = n.after before) (o : Operation)
    (hdone : (o.mapTypes.rename group e).2.2 = none) :
    Called n before o.calls (o.mapTypes.rename group e).1 (o.mapTypes.rename group e).2.1
      (writtenBy · o) := by
  have hfields := renameFields_called (o.mapTypes.locationIn group) he o
  simp only [rename] at hdone ⊢
  cases hrendered : (o.mapTypes.renameFields (o.mapTypes.locationIn group) e).2.naming.renderPath
      (o.mapTypes.renameFields (o.mapTypes.locationIn group) e).1.path with
  | error error =>
    rw [hrendered] at hdone
    cases hdone
  | ok rendered =>
    have hpath := Called.path hrendered hfields.reached
    exact (hfields.pair hpath).map fun v => { v.1 with path := v.2 }

end Operation

namespace ApiGroup

def calls (a : ApiGroup) : List Call :=
  [.ofName .plain a.classname] ++ a.operations.flatMap Operation.calls

def writtenBy (n : Naming) (a : ApiGroup) : ApiGroup where
  classname := n.identifier .plain a.classname
  operations := a.operations.map (Operation.writtenBy n)

theorem rename_called (he : e.naming = n.after before) (a : ApiGroup)
    (hdone : (a.mapTypes.rename e).2.2 = none) :
    Called n before a.calls (a.mapTypes.rename e).1 (a.mapTypes.rename e).2.1 (writtenBy · a) := by
  have hclass := Called.edit operationsPhase a.location .plain a.classname he
  have hoperations := Traced.mapUntil
    (fun _ _ o he h => Operation.rename_called a.location he o h) a.operations hclass.reached hdone
  exact (hclass.pair hoperations).map fun v => { a with classname := v.1, operations := v.2 }

end ApiGroup

end

/-- All calls of a run, in order. -/
def Descriptor.calls (d : Descriptor) : List Call :=
  d.models.flatMap Model.calls ++ d.apis.flatMap ApiGroup.calls

/-- What a state makes of the descriptor of a run. The bag depends on no name but its own. -/
def Run.writtenBy (n : Naming) (r : Run) : Descriptor where
  apis := r.descriptor.apis.map (ApiGroup.writtenBy n)
  models := r.descriptor.models.map (Model.writtenBy n)
  bag := r.supportedBag

theorem Run.supportedBag_congr {r r' : Run} (hconfig : r'.config = r.config)
    (hbag : r'.descriptor.bag = r.descriptor.bag) (hlimits : r'.naming.limits = r.naming.limits) :
    r'.supportedBag = r.supportedBag := by
  have hname : r'.naming.interfaceName = r.naming.interfaceName := by
    funext title
    rw [Naming.interfaceName, Naming.interfaceName, hlimits]
  simp only [supportedBag, appName?, Descriptor.bagText?, hconfig, hbag, hname]

/-- What the two phases that name things leave. -/
theorem Run.called_of_templates (d : Descriptor) (c : Config) (hd : d.pathDefects = []) :
    let models := (Run.start d c).prepared
    let operations := (Phase.operations.run models).1
    Called c.naming.start [] d.calls (models.descriptor.models, operations.descriptor.apis)
      operations.editor fun n =>
        (d.models.map (Model.writtenBy n), d.apis.map (ApiGroup.writtenBy n)) := by
  intro models operations
  have hstart : ((Run.start d c).report (lintAll defaultLints d)).editor.naming =
      c.naming.start.after [] := rfl
  have hmodels := Traced.mapThrough (fun _ _ m he => Model.rename_called he m) d.models hstart
  have hdone : (Phase.operations.run models).2 = none := (Run.start d c).operations_prepared hd
  have hoperations := Traced.mapUntil (fun _ _ a he h => ApiGroup.rename_called he a h) d.apis
    hmodels.reached hdone
  exact hmodels.pair hoperations

/-- A run that goes through has made all calls of the descriptor, and has written what the last
state makes of it. However many calls came behind, they would have written the same. -/
theorem runBuiltin_written {d : Descriptor} {c : Config} {r : Run}
    (h : runBuiltin (Run.start d c) = (r, none)) :
    r.naming = c.naming.start.after d.calls ∧
    ∀ later, r.descriptor =
      (Run.start d c).writtenBy (c.naming.start.after (d.calls ++ later)) := by
  obtain ⟨hdefects, rfl⟩ := runBuiltin_of_done rfl h
  obtain ⟨hnaming, hwritten⟩ := Run.called_of_templates d c hdefects
  simp only [List.nil_append] at hnaming hwritten
  refine ⟨hnaming, fun later => ?_⟩
  obtain ⟨hmodels, hapis⟩ := Prod.mk.inj (hwritten later)
  have hlimits := (Naming.extends_after c.naming.start d.calls).limits_eq
  rw [← hnaming] at hlimits
  have hbag : (Phase.operations.run (Run.start d c).prepared).1.supportedBag =
    (Run.start d c).supportedBag := Run.supportedBag_congr rfl rfl hlimits
  rw [Run.writtenBy, ← hbag, Run.start, ← hmodels, ← hapis]
  rfl

theorem runBuiltin_descriptor {d : Descriptor} {c : Config} {r : Run}
    (h : runBuiltin (Run.start d c) = (r, none)) :
    r.descriptor = (Run.start d c).writtenBy r.naming := by
  obtain ⟨hnaming, hwritten⟩ := runBuiltin_written h
  have hdescriptor := hwritten []
  rwa [List.append_nil, ← hnaming] at hdescriptor

end AbapNaming
