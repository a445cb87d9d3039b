import AbapNaming.Descriptor.Basic
import AbapNaming.Json.Record

/-! # Descriptors as JSON

The fields of each kind of record, in the order in which they are written. Names may be missing
only where the run can do without them.
-/

namespace AbapNaming

open Json

def Parameter.recordType : RecordType Parameter where
  name := "Parameter"
  blank := { baseName := "" }
  fields := [
    .mandatory "baseName" .text (·.baseName) fun p v => { p with baseName := v },
    .plain "paramName" .text (·.paramName) fun p v => { p with paramName := v },
    .plain "dataType" .text (·.dataType) fun p v => { p with dataType := v },
    .plain "isQueryParam" .flag (·.isQuery) fun p v => { p with isQuery := v },
    .plain "isPathParam" .flag (·.isPath) fun p v => { p with isPath := v },
    .plain "isBodyParam" .flag (·.isBody) fun p v => { p with isBody := v },
    .plain "isArray" .flag (·.isArray) fun p v => { p with isArray := v }]

def Operation.recordType : RecordType Operation where
  name := "Operation"
  blank := { operationId := "" }
  fields := [
    .mandatory "operationId" .text (·.operationId) fun o v => { o with operationId := v },
    .plain "baseName" .text (·.baseName) fun o v => { o with baseName := v },
    .plain "path" .text (·.path) fun o v => { o with path := v },
    .plain "hasProduces" .flag (·.hasProduces) fun o v => { o with hasProduces := v },
    .optional "returnType" .text (·.returnType) fun o v => { o with returnType := v },
    .optional "returnContainer" .text (·.returnContainer) fun o v =>
      { o with returnContainer := v },
    .optional "returnBaseType" .text (·.returnBaseType) fun o v =>
      { o with returnBaseType := v },
    .plain "allParams" (.list Parameter.recordType.codec) (·.params) fun o v =>
      { o with params := v }]

def ApiGroup.recordType : RecordType ApiGroup where
  name := "ApiGroup"
  blank := { classname := "" }
  fields := [
    .mandatory "classname" .text (·.classname) fun a v => { a with classname := v },
    .plain "operations" (.list Operation.recordType.codec) (·.operations) fun a v =>
      { a with operations := v }]

def Property.recordType : RecordType Property where
  name := "Property"
  blank := { baseName := "" }
  fields := [
    .mandatory "baseName" .text (·.baseName) fun p v => { p with baseName := v },
    .plain "dataType" .text (·.dataType) fun p v => { p with dataType := v },
    .optional "complexType" .text (·.complexType) fun p v => { p with complexType := v },
    .optional "unescapedDescription" .text (·.unescapedDescription) fun p v =>
      { p with unescapedDescription := v },
    .optional "description" .text (·.description) fun p v => { p with description := v }]

def Model.recordType : RecordType Model where
  name := "Model"
  blank := { name := "" }
  fields := [
    .mandatory "name" .text (·.name) fun m v => { m with name := v },
    .plain "classname" .text (·.classname) fun m v => { m with classname := v },
    .plain "classVarName" .text (·.classVarName) fun m v => { m with classVarName := v },
    .plain "classFilename" .text (·.classFilename) fun m v => { m with classFilename := v },
    .optional "typeCode" .text (·.typeCode) fun m v => { m with typeCode := v },
    .plain "vars" (.list Property.recordType.codec) (·.vars) fun m v => { m with vars := v }]

namespace Descriptor

def recordType : RecordType Descriptor where
  name := "Descriptor"
  blank := {}
  fields := [
    .plain "apis" (.list ApiGroup.recordType.codec) (·.apis) fun d v => { d with apis := v },
    .plain "models" (.list Model.recordType.codec) (·.models) fun d v => { d with models := v },
    .plain "additionalProperties" .bag (·.bag) fun d v => { d with bag := v }]

def ofJson (text : String) : Except ReadError Descriptor := recordType.codec.ofText text.toList

def toJson (d : Descriptor) : String := (recordType.write d).render

end Descriptor

end AbapNaming
