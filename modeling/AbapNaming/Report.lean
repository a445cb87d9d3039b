import AbapNaming.Descriptor.Format
import AbapNaming.Pipeline

/-! # Reports

What a command found out, and the lines in which it is shown. A line says what it is; where it
goes is for the terminal to decide.
-/

namespace AbapNaming

inductive ReportLine
  | keyValue (key value : String)
  | error (message : String)
  | warning (message : String)
  | preformatted (text : String)
  | blank
deriving DecidableEq, Repr

/-- The result of a run that is written out. -/
structure MangleReport where
  /-- The file it goes to, if it goes to one. -/
  output : Option String
  json : String
  warnings : List String
  typeCodes : Nat
deriving DecidableEq, Repr

namespace MangleReport

def lines (r : MangleReport) : List ReportLine :=
  r.warnings.map .warning ++
    match r.output with
    | some path => [.keyValue "wrote" path, .keyValue "type codes" (toString r.typeCodes)]
    | none => [.preformatted r.json]

end MangleReport

def mangle (d : Descriptor) (c : Config) (output : Option String) :
    Except Failure MangleReport :=
  match runBuiltin (Run.start d c) with
  | (_, some failure) => .error (.run failure)
  | (r, none) =>
    .ok ⟨output, r.descriptor.toJson, r.warnings.map Diagnostic.describe, r.naming.types.size⟩

structure CheckReport where
  path : String
  errors : List String
  warnings : List String
  infos : List String
deriving DecidableEq, Repr

namespace CheckReport

def isValid (r : CheckReport) : Bool := r.errors.isEmpty

def lines (r : CheckReport) : List ReportLine :=
  r.errors.map .error ++ r.warnings.map .warning ++
    r.infos.map (fun i => .preformatted ("info: " ++ i)) ++
    (if r.warnings.isEmpty && r.errors.isEmpty then [] else [.blank]) ++
    (if r.isValid then [.preformatted ("✓ " ++ r.path ++ " is valid")] else [])

end CheckReport

/-- Runs through a descriptor for its diagnostics. A failure that none of them tells is an error
of its own. -/
def check (d : Descriptor) (c : Config) (path : String) : CheckReport :=
  let (r, failure) := runBuiltin (Run.start d c)
  let untold :=
    match failure with
    | some f => if r.hasErrors then [] else [f.fullMessage]
    | none => []
  ⟨path, r.errors.map Diagnostic.describe ++ untold, r.warnings.map Diagnostic.describe,
    r.infos.map Diagnostic.describe⟩

end AbapNaming
