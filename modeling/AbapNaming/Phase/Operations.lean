import AbapNaming.Lint.Basic
import AbapNaming.Phase.Basic

/-! # Operations

The fourth phase names each group of operations, the operations in it and their parameters, and
puts the names of the parameters into the paths. It stops at the first malformed path; what was
named up to there stays named.
-/

namespace AbapNaming

def operationsPhase : String := "operations"

/-- The type of a table whose items are not known yet. -/
def untypedTable : String := "STANDARD TABLE OF"

/-- The type that such a table gets in the interface. -/
def textTable : String := "ty_t_string"

/-- The return type of an operation that returns nothing. -/
def noReturnType : String := "string"

def Parameter.withTable (p : Parameter) : Parameter :=
  if p.dataType = untypedTable then { p with dataType := textTable } else p

def Parameter.rename (operation : String) (e : Editor) (p : Parameter) : Parameter × Editor :=
  let location := p.locationIn operation
  let (paramName, e) := e.edit operationsPhase location p.baseName Role.plain.tag
  let p := { p.withTable with paramName }
  match Role.ofParameter? p.placement p.isArray with
  | some role =>
    let (baseName, e) := e.edit operationsPhase location p.baseName role.tag
    ({ p with baseName }, e)
  | none =>
    if p.placement = .body ∧ ¬ p.dataType.isEmpty then
      let (dataType, e) := e.intern p.dataType
      ({ p with dataType }, e)
    else (p, e)

def Operation.renameReturn (e : Editor) (o : Operation) : String × Editor :=
  match o.returnType with
  | none => (noReturnType, e)
  | some type => if o.hasProduces && !type.isEmpty then e.intern type else (noReturnType, e)

/-- Names everything in an operation but its path. -/
def Operation.renameFields (location : String) (e : Editor) (o : Operation) : Operation × Editor :=
  let (operationId, e) := e.edit operationsPhase location o.operationId Role.plain.tag
  let (baseName, e) := e.edit operationsPhase location o.baseName Role.plain.tag
  let (returnType, e) := o.renameReturn e
  let (params, e) := mapThrough (Parameter.rename location) e o.params
  ({ o with operationId, baseName, returnType := some returnType, params }, e)

def Operation.rename (group : String) (e : Editor) (o : Operation) :
    Operation × Editor × Option Failure :=
  let location := o.locationIn group
  let (o, e) := o.renameFields location e
  match e.naming.renderPath o.path with
  | .ok (path, naming) => ({ o with path }, { e with naming }, none)
  | .error error => (o, e, some (.operation location (.path error)))

def ApiGroup.rename (e : Editor) (a : ApiGroup) : ApiGroup × Editor × Option Failure :=
  let location := a.location
  let (classname, e) := e.edit operationsPhase location a.classname Role.plain.tag
  let (operations, e, failure) := mapUntil (Operation.rename location) e a.operations
  ({ a with classname, operations }, e, failure)

def Phase.operations : Phase where
  name := operationsPhase
  description := "Mangle class, operation and parameter names, return types and paths"
  run r :=
    let (apis, editor, failure) := mapUntil ApiGroup.rename r.editor r.descriptor.apis
    ({ r with descriptor := { r.descriptor with apis }, editor }, failure)

end AbapNaming
