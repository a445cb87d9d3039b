/-! # Diagnostics

What a run has to say about a descriptor: what is wrong, what may be unintended, and which names
were changed to fit.
-/

namespace AbapNaming

inductive Severity
  | error
  | warning
  | info
deriving DecidableEq, Repr

namespace Severity

def label : Severity → String
  | .error => "error"
  | .warning => "warning"
  | .info => "info"

/-- The gravest severity has the lowest rank. -/
def rank : Severity → Nat
  | .error => 0
  | .warning => 1
  | .info => 2

end Severity

structure Diagnostic where
  severity : Severity
  /-- The phase that made it. -/
  phase : String
  message : String
  /-- A dotted way into the descriptor. -/
  location : Option String := none
deriving DecidableEq, Repr

namespace Diagnostic

def isError (d : Diagnostic) : Bool := decide (d.severity = .error)

def isWarning (d : Diagnostic) : Bool := decide (d.severity = .warning)

def isInfo (d : Diagnostic) : Bool := decide (d.severity = .info)

def display (d : Diagnostic) : String :=
  d.severity.label ++ ": " ++ d.message ++
    match d.location with
    | some l => " (at " ++ l ++ ")"
    | none => ""

/-- The message with the location on a second line. -/
def describe (d : Diagnostic) : String :=
  match d.location with
  | some l => d.message ++ "\n  --> " ++ l
  | none => d.message

end Diagnostic

end AbapNaming
