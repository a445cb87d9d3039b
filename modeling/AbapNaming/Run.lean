import AbapNaming.Config.Basic
import AbapNaming.Descriptor.Basic
import AbapNaming.Editor

/-! # The state of a run

A run works on one descriptor with one configuration, and names everything through one editor.
-/

namespace AbapNaming

structure Run where
  descriptor : Descriptor
  config : Config
  editor : Editor
deriving Repr

namespace Run

def start (descriptor : Descriptor) (config : Config) : Run :=
  ⟨descriptor, config, config.naming.start, []⟩

def naming (r : Run) : Naming := r.editor.naming

def diagnostics (r : Run) : List Diagnostic := r.editor.diagnostics

def report (r : Run) (new : List Diagnostic) : Run :=
  { r with editor := { r.editor with diagnostics := r.editor.diagnostics ++ new } }

def errors (r : Run) : List Diagnostic := r.diagnostics.filter Diagnostic.isError

def warnings (r : Run) : List Diagnostic := r.diagnostics.filter Diagnostic.isWarning

def infos (r : Run) : List Diagnostic := r.diagnostics.filter Diagnostic.isInfo

def hasErrors (r : Run) : Bool := r.diagnostics.any Diagnostic.isError

def hasWarnings (r : Run) : Bool := r.diagnostics.any Diagnostic.isWarning

end Run

end AbapNaming
