import AbapNaming.Phase.Models
import AbapNaming.Phase.Operations
import AbapNaming.Phase.TypeMapping

/-! # Where a descriptor uses types

Each field that holds a type either is written as the field says or gets the code of a name. What
it is can be told from the descriptor as it was read, since the mapping of plain types comes
before all codes. Read from the first model to the last operation, the names are those that a run
asks codes for.
-/

namespace AbapNaming

/-- What a field for a type gets. -/
inductive TypeUse
  /-- This text. -/
  | kept (text : String)
  /-- The code of this name. -/
  | coded (name : String)
deriving DecidableEq, Repr

namespace TypeUse

def names : TypeUse → List String
  | .kept _ => []
  | .coded name => [name]

def text (code : String → String) : TypeUse → String
  | .kept text => text
  | .coded name => code name

end TypeUse

namespace Property

def dataUse (p : Property) : TypeUse :=
  let type := SchemaType.toAbap p.dataType
  if type.isEmpty || SchemaType.isBuiltin type then .kept type else .coded type

/-- The type that the property refers to is never mapped. -/
def referenceUse? (p : Property) : Option TypeUse :=
  p.complexType.map fun type =>
    if SchemaType.isBuiltin type then .kept type
    else if type = "string" then .kept "STRING"
    else .coded type

def typeNames (p : Property) : List String :=
  p.dataUse.names ++ (p.referenceUse?.map TypeUse.names).getD []

def types (p : Property) : String × Option String := (p.dataType, p.complexType)

def codedTypes (p : Property) (code : String → String) : String × Option String :=
  (p.dataUse.text code, p.referenceUse?.map (TypeUse.text code))

end Property

namespace Model

def typeNames (m : Model) : List String :=
  m.vars.flatMap Property.typeNames ++ [m.withOwnNames.typeName]

def types (m : Model) : List (String × Option String) × Option String :=
  (m.vars.map Property.types, m.typeCode)

def codedTypes (m : Model) (code : String → String) : List (String × Option String) × Option String :=
  (m.vars.map (·.codedTypes code), some (code m.withOwnNames.typeName))

end Model

namespace Parameter

/-- The mapped type, where a table without a type of its items is one of texts. -/
def requestType (p : Parameter) : String :=
  let type := SchemaType.toAbap p.dataType
  if type = untypedTable then textTable else type

/-- Only a body is written with a code. -/
def typeUse (p : Parameter) : TypeUse :=
  if p.placement = .body ∧ ¬ p.requestType.isEmpty then .coded p.requestType
  else .kept p.requestType

def typeNames (p : Parameter) : List String := p.typeUse.names

def codedType (p : Parameter) (code : String → String) : String := p.typeUse.text code

end Parameter

namespace Operation

/-- An operation returns a type of its own only if it declares media types for it. -/
def returnUse (o : Operation) : TypeUse :=
  match o.returnType with
  | some type => if o.hasProduces && !type.isEmpty then .coded type else .kept noReturnType
  | none => .kept noReturnType

def typeNames (o : Operation) : List String :=
  o.returnUse.names ++ o.params.flatMap Parameter.typeNames

def types (o : Operation) : Option String × List String :=
  (o.returnType, o.params.map (·.dataType))

def codedTypes (o : Operation) (code : String → String) : Option String × List String :=
  (some (o.returnUse.text code), o.params.map (·.codedType code))

end Operation

namespace ApiGroup

def typeNames (a : ApiGroup) : List String := a.operations.flatMap Operation.typeNames

def types (a : ApiGroup) : List (Option String × List String) := a.operations.map Operation.types

def codedTypes (a : ApiGroup) (code : String → String) : List (Option String × List String) :=
  a.operations.map (·.codedTypes code)

end ApiGroup

/-- The names that a run asks codes for, in order. -/
def Descriptor.typeNames (d : Descriptor) : List String :=
  d.models.flatMap Model.typeNames ++ d.apis.flatMap ApiGroup.typeNames

end AbapNaming
