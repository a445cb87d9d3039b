/-! # Types of a schema and types of ABAP

A fixed table gives the ABAP type for each plain type of a schema. Any other name is taken for a
model and kept. The built-in names are those that never stand for a model.
-/

namespace AbapNaming.SchemaType

def targetLanguage : String := "abap"

/-- Schema and ABAP spellings that never get a type code. -/
def builtins : List String := [
  "array", "number", "REF TO DATA", "STRING", "integer", "int4", "int8", "XSTRING",
  "/goog/num_float", "abap_bool", "List", "OBJECT", "AnyType", "STANDARD TABLE OF"]

def isBuiltin (name : String) : Bool := decide (name ∈ builtins)

def table : List (String × String) := [
  ("object", "REF TO DATA"), ("AnyType", "REF TO DATA"),
  ("string", "STRING"), ("DateTime", "STRING"), ("Date", "STRING"), ("UUID", "STRING"),
  ("URI", "STRING"),
  ("integer", "int4"), ("long", "int8"), ("number", "/goog/num_float"),
  ("boolean", "abap_bool"),
  ("array", "STANDARD TABLE OF"), ("List", "STANDARD TABLE OF"),
  ("byte", "XSTRING")]

def abap? (name : String) : Option String := table.lookup name

/-- The ABAP type of a plain schema type; any other name as it is. -/
def toAbap (name : String) : String := (abap? name).getD name

end AbapNaming.SchemaType
