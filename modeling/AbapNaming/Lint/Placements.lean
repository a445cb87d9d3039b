import AbapNaming.Lint.Basic

/-! # Parameters with several placements

A parameter that is marked for more than one placement is treated as marked for the first one.
-/

namespace AbapNaming

def placementMessage (p : Parameter) : String :=
  "parameter '" ++ p.baseName ++ "' has " ++ toString p.placementCount ++
    " placement flags; treated as " ++ p.placement.label

def placementDiagnostics (o : Operation) (location : String) : List Diagnostic :=
  (o.params.filter fun p => decide (1 < p.placementCount)).map fun p =>
    ⟨.warning, lintPhase, placementMessage p, some (p.locationIn location)⟩

def Lint.placements : Lint where
  name := "parameter-placement"
  description := "Detect parameters flagged for more than one placement"
  check d := d.apis.flatMap fun a =>
    a.operations.flatMap fun o => placementDiagnostics o (o.locationIn a.location)

end AbapNaming
