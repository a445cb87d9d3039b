import AbapNaming.Phase.Basic
import AbapNaming.SchemaType

/-! # Type mapping

The second phase replaces plain schema types by ABAP types, in parameters and in properties.
References to models stay as they are.
-/

namespace AbapNaming

def Parameter.mapType (p : Parameter) : Parameter :=
  { p with dataType := SchemaType.toAbap p.dataType }

def Operation.mapTypes (o : Operation) : Operation :=
  { o with params := o.params.map Parameter.mapType }

def ApiGroup.mapTypes (a : ApiGroup) : ApiGroup :=
  { a with operations := a.operations.map Operation.mapTypes }

def Property.mapType (p : Property) : Property :=
  { p with dataType := SchemaType.toAbap p.dataType }

def Model.mapTypes (m : Model) : Model := { m with vars := m.vars.map Property.mapType }

def Descriptor.mapTypes (d : Descriptor) : Descriptor :=
  { d with apis := d.apis.map ApiGroup.mapTypes, models := d.models.map Model.mapTypes }

def Phase.typeMapping : Phase where
  name := "map-types"
  description := "Map schema types to ABAP types"
  run r := ({ r with descriptor := r.descriptor.mapTypes }, none)

end AbapNaming
