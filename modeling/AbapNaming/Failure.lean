import AbapNaming.PathTemplate

/-! # Failures of a run

A failure has a cause or none. Its chain of messages goes from the outermost to the cause.
-/

namespace AbapNaming

inductive Failure
  /-- Validation ended with errors, which are listed as diagnostics. -/
  | validation (errors : Nat)
  | path (error : PathError)
  /-- An operation could not be named. -/
  | operation (location : String) (cause : Failure)
  /-- The whole run failed. -/
  | run (cause : Failure)
  /-- A failure of a phase or plugin that was added. -/
  | custom (message : String)
deriving DecidableEq, Repr

namespace Failure

def message : Failure → String
  | .validation errors => "Validation failed with " ++ toString errors ++ " error(s)"
  | .path e => e.message
  | .operation location _ => "failed to mangle operation at " ++ location
  | .run _ => "Mangling failed"
  | .custom message => message

/-- The messages from the failure to its innermost cause. -/
def chain : Failure → List String
  | .operation location cause => (Failure.operation location cause).message :: chain cause
  | .run cause => (Failure.run cause).message :: chain cause
  | .validation errors => [(Failure.validation errors).message]
  | .path e => [(Failure.path e).message]
  | .custom message => [message]

def fullMessage (f : Failure) : String := String.intercalate ": " f.chain

end Failure

/-- A step changes a state and may fail. The state after a failure is the one it left. -/
abbrev Step (σ : Type) := σ → σ × Option Failure

namespace Step

def andThen {σ : Type} (first second : Step σ) : Step σ := fun s =>
  match first s with
  | (s', none) => second s'
  | (s', some e) => (s', some e)

/-- The steps in order, up to the first that fails. -/
def sequence {σ : Type} : List (Step σ) → Step σ
  | [] => fun s => (s, none)
  | step :: steps => andThen step (sequence steps)

end Step

end AbapNaming
