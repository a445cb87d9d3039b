import AbapNaming.Phase.Basic
import AbapNaming.SchemaType

/-! # Models

The third phase names the properties of each model and gives codes to the types that they refer
to, and at last to the model's own type. It comes before the operations, so models have the
lowest codes.
-/

namespace AbapNaming

def modelsPhase : String := "models"

/-- The code of a type that a property has; built-in types and no type at all stay. -/
def Editor.internData (e : Editor) (type : String) : String × Editor :=
  if type.isEmpty || SchemaType.isBuiltin type then (type, e) else e.intern type

/-- The code of a type that a property refers to. A plain text is spelt as ABAP does. -/
def Editor.internReference (e : Editor) (type : String) : String × Editor :=
  if SchemaType.isBuiltin type then (type, e)
  else if type = "string" then ("STRING", e)
  else e.intern type

def Property.rename (location : String) (e : Editor) (p : Property) : Property × Editor :=
  let (dataType, e) := e.internData p.dataType
  let (baseName, e) :=
    e.edit modelsPhase (location ++ ".vars." ++ p.baseName) p.baseName Role.plain.tag
  let (complexType, e) :=
    match p.complexType with
    | none => (none, e)
    | some type =>
      let (code, e) := e.internReference type
      (some code, e)
  let description := some (e.naming.remark p.unescapedDescription)
  ({ p with baseName, dataType, complexType, description }, e)

/-- An inline schema takes its name for its variable and its file. -/
def Model.withOwnNames (m : Model) : Model :=
  if m.isInline then { m with classVarName := m.name, classFilename := m.name } else m

/-- The name under which a model's type is known: the first one that is not empty. -/
def Model.typeName (m : Model) : String :=
  if !m.classVarName.isEmpty then m.classVarName
  else if !m.classname.isEmpty then m.classname
  else m.name

def Model.location (m : Model) : String := "models." ++ m.name

def Model.rename (e : Editor) (m : Model) : Model × Editor :=
  let m := m.withOwnNames
  let (vars, e) := mapThrough (Property.rename m.location) e m.vars
  let (code, e) := e.intern m.typeName
  ({ m with vars, typeCode := some code }, e)

def Phase.models : Phase where
  name := modelsPhase
  description := "Mangle model names, property names and property types"
  run r :=
    let (models, editor) := mapThrough Model.rename r.editor r.descriptor.models
    ({ r with descriptor := { r.descriptor with models }, editor }, none)

end AbapNaming
