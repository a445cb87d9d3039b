import AbapNaming.Diagnostic
import AbapNaming.Failure
import AbapNaming.Naming

/-! # Editing with a record

An editor names things through one naming state and notes each name that had to be shortened or
escaped.
-/

namespace AbapNaming

structure Editor where
  naming : Naming
  diagnostics : List Diagnostic
deriving DecidableEq, Repr

def editNotes (phase location name : String) (edited : Edited) : List Diagnostic :=
  (if edited.truncated then
    [⟨.info, phase, "'" ++ name ++ "' shortened to '" ++ edited.value ++ "'", some location⟩]
  else []) ++
  (if edited.escaped then
    [⟨.info, phase, "'" ++ name ++ "' escaped to '" ++ edited.value ++ "'", some location⟩]
  else [])

namespace Editor

def edit (e : Editor) (phase location name tag : String) : String × Editor :=
  let (edited, naming) := e.naming.edit name tag
  (edited.value, ⟨naming, e.diagnostics ++ editNotes phase location name edited⟩)

def intern (e : Editor) (name : String) : String × Editor :=
  let (code, naming) := e.naming.intern name Role.typeCode.tag
  (code, { e with naming })

end Editor

/-- Changes items one after the other while a state is passed along. -/
def mapThrough {σ α : Type} (f : σ → α → α × σ) : σ → List α → List α × σ
  | s, [] => ([], s)
  | s, a :: as =>
    let (a', s') := f s a
    let (as', s'') := mapThrough f s' as
    (a' :: as', s'')

/-- Changes items one after the other, up to the first that fails; it keeps what was changed of
it, and the items behind it stay as they are. -/
def mapUntil {σ α : Type} (f : σ → α → α × σ × Option Failure) :
    σ → List α → List α × σ × Option Failure
  | s, [] => ([], s, none)
  | s, a :: as =>
    match f s a with
    | (a', s', some e) => (a' :: as, s', some e)
    | (a', s', none) =>
      let (as', result) := mapUntil f s' as
      (a' :: as', result)

end AbapNaming
