import AbapNaming.Phase.Models
import AbapNaming.Phase.Operations
import AbapNaming.Phase.SupportingData
import AbapNaming.Phase.TypeMapping
import AbapNaming.Phase.Validation

/-! # The pipeline

The built-in phases run first and then those that were added. Around each phase every plugin is
called, in order, before and after. The first failure of a plugin or a phase ends the run.

Plugins work on a state of their own beside that of the run.
-/

namespace AbapNaming

/-- A plugin is told the name of the phase around which it is called. -/
structure Plugin (ω : Type) where
  before : String → Step (ω × Run) := fun _ s => (s, none)
  after : String → Step (ω × Run) := fun _ s => (s, none)

def builtinPhases : List Phase :=
  [.validation defaultLints, .typeMapping, .models, .operations, .supportingData]

structure Pipeline (ω : Type) where
  added : List Phase := []
  plugins : List (Plugin ω) := []

namespace Pipeline

variable {ω : Type}

def phases (p : Pipeline ω) : List Phase := builtinPhases ++ p.added

/-- A phase beside the plugins' state, which it does not touch. -/
def onRun (phase : Phase) : Step (ω × Run) := fun s =>
  let (r, failure) := phase.run s.2
  ((s.1, r), failure)

def runPhase (p : Pipeline ω) (phase : Phase) : Step (ω × Run) :=
  (Step.sequence (p.plugins.map fun g => g.before phase.name)).andThen
    ((onRun phase).andThen (Step.sequence (p.plugins.map fun g => g.after phase.name)))

def runPhases (p : Pipeline ω) : List Phase → Step (ω × Run)
  | [] => fun s => (s, none)
  | phase :: rest => (p.runPhase phase).andThen (p.runPhases rest)

def run (p : Pipeline ω) : Step (ω × Run) := p.runPhases p.phases

end Pipeline

/-- The built-in phases alone. -/
def runBuiltin : Step Run := fun r =>
  let ((_, r'), failure) := ({} : Pipeline Unit).run ((), r)
  (r', failure)

end AbapNaming
