import AbapNaming.Identifier.Snake
import AbapNaming.Lint.Basic

/-! # Names that become one

Names with the same snake form become the same identifier. Operations are compared within their
group and groups with each other; the first name with a form is the one that later ones meet.
-/

namespace AbapNaming

/-- A name that meets an earlier one of the same form. -/
structure Collision where
  name : String
  first : String
  form : String
deriving DecidableEq, Repr

def Collision.message (c : Collision) (kind : String) : String :=
  kind ++ " '" ++ c.name ++ "' collides with '" ++ c.first ++ "' as '" ++ c.form ++ "'"

/-- For each name the earlier one that it meets, if any; `seen` holds forms with the first name
of that form. -/
def collisions (seen : KeyedList String) : List String → List (Option Collision)
  | [] => []
  | name :: names =>
    let form := Snake.ofName name
    match seen.get? form with
    | some first => some ⟨name, first, form⟩ :: collisions seen names
    | none => none :: collisions (seen ++ [(form, name)]) names

def collisionDiagnostics (kind location : String) : Option Collision → List Diagnostic
  | none => []
  | some c => [⟨.warning, lintPhase, c.message kind, some location⟩]

def operationCollisions (a : ApiGroup) : List Diagnostic :=
  let found := collisions [] (a.operations.map (·.operationId))
  (a.operations.zip found).flatMap fun (o, c) =>
    collisionDiagnostics "operation" (o.locationIn a.location) c

def Lint.collisions : Lint where
  name := "duplicate-operation"
  description := "Detect operations and API groups whose identifiers collide"
  check d :=
    let found := AbapNaming.collisions [] (d.apis.map (·.classname))
    (d.apis.zip found).flatMap fun (a, c) =>
      collisionDiagnostics "api group" a.location c ++ operationCollisions a

end AbapNaming
