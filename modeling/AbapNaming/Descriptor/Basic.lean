import AbapNaming.Identifier.Role
import AbapNaming.Json.Value

/-! # Descriptors

A descriptor holds what is known of an interface: groups of operations with their parameters,
models with their properties, and a bag of run-wide entries. A run replaces names, types and
paths in it and leaves its shape alone.
-/

namespace AbapNaming

structure Parameter where
  /-- The name as the schema writes it. -/
  baseName : String
  /-- The name of the variable. -/
  paramName : String := ""
  dataType : String := ""
  isQuery : Bool := false
  isPath : Bool := false
  isBody : Bool := false
  isArray : Bool := false
deriving DecidableEq, Repr

namespace Parameter

/-- Of several marks the first one counts, in the order query, path, body. -/
def placement (p : Parameter) : Placement :=
  if p.isQuery then .query
  else if p.isPath then .path
  else if p.isBody then .body
  else .other

def placementCount (p : Parameter) : Nat := [p.isQuery, p.isPath, p.isBody].count true

end Parameter

structure Operation where
  operationId : String
  /-- The name of the client's stub. -/
  baseName : String := ""
  /-- A path template. -/
  path : String := ""
  /-- Are media types declared for the response? -/
  hasProduces : Bool := false
  returnType : Option String := none
  returnContainer : Option String := none
  returnBaseType : Option String := none
  params : List Parameter := []
deriving DecidableEq, Repr

/-- Operations that go into one class. -/
structure ApiGroup where
  classname : String
  operations : List Operation := []
deriving DecidableEq, Repr

structure Property where
  baseName : String
  dataType : String := ""
  /-- A type that is referred to; plain properties have none. -/
  complexType : Option String := none
  unescapedDescription : Option String := none
  description : Option String := none
deriving DecidableEq, Repr

structure Model where
  name : String
  classname : String := ""
  classVarName : String := ""
  classFilename : String := ""
  /-- The code of the model's type, once it has one. -/
  typeCode : Option String := none
  vars : List Property := []
deriving DecidableEq, Repr

/-- The name of an inline schema is made up and differs from its class. -/
def Model.isInline (m : Model) : Bool := decide (m.name ≠ m.classname)

abbrev PropertyBag := KeyedList Json.Value

structure Descriptor where
  apis : List ApiGroup := []
  models : List Model := []
  bag : PropertyBag := []
deriving DecidableEq, Repr

namespace Descriptor

def operationCount (d : Descriptor) : Nat := (d.apis.flatMap (·.operations)).length

def bagText? (d : Descriptor) (key : String) : Option String :=
  (d.bag.get? key).bind Json.Value.text?

end Descriptor

end AbapNaming
