import AbapNaming.Lint.Collisions
import AbapNaming.Lint.Paths
import AbapNaming.Lint.Placements
import AbapNaming.Phase.Basic

/-! # Validation

The first phase runs the lints and stops the run if the diagnostics, old ones included, hold an
error. Warnings are let pass.
-/

namespace AbapNaming

def defaultLints : List Lint := [.paths, .collisions, .placements]

def lintAll (lints : List Lint) (d : Descriptor) : List Diagnostic :=
  lints.flatMap fun l => l.check d

def validate (lints : List Lint) : Step Run := fun r =>
  let r' := r.report (lintAll lints r.descriptor)
  (r', if r'.hasErrors then some (.validation r'.errors.length) else none)

def Phase.validation (lints : List Lint) : Phase where
  name := lintPhase
  description := "Check descriptor integrity and collect diagnostics"
  run := validate lints

end AbapNaming
