import AbapNaming.Identifier.Suffix
import AbapNaming.KeyedList

/-! # Type codes

Each type name has one code for the whole run: the tag it was first asked for with, followed by
the number of names that had a code before.
-/

namespace AbapNaming

/-- Type names with their codes, in the order in which the codes were given. -/
structure TypeCodes where
  entries : KeyedList String
deriving DecidableEq, Repr

namespace TypeCodes

def empty : TypeCodes := ⟨[]⟩

def code? (t : TypeCodes) (name : String) : Option String := t.entries.get? name

def size (t : TypeCodes) : Nat := t.entries.length

def isEmpty (t : TypeCodes) : Bool := t.entries.isEmpty

/-- The code of a type name. A name without one gets the next. -/
def assign (t : TypeCodes) (name tag : String) : String × TypeCodes :=
  match t.code? name with
  | some code => (code, t)
  | none =>
    let code := tag ++ suffix t.size
    (code, ⟨t.entries ++ [(name, code)]⟩)

end TypeCodes

end AbapNaming
