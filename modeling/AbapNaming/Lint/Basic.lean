import AbapNaming.Descriptor.Basic
import AbapNaming.Diagnostic

/-! # Lints

A lint looks at a descriptor before anything in it is named, and reports what it finds.
-/

namespace AbapNaming

structure Lint where
  name : String
  description : String
  check : Descriptor → List Diagnostic

def lintPhase : String := "validate"

/-- Dotted ways to the parts of a descriptor. -/
def ApiGroup.location (a : ApiGroup) : String := "apis." ++ a.classname

def Operation.locationIn (o : Operation) (group : String) : String :=
  group ++ ".operations." ++ o.operationId

def Parameter.locationIn (p : Parameter) (operation : String) : String :=
  operation ++ ".params." ++ p.baseName

end AbapNaming
