/-! # JSON syntax trees

Reading a text always yields a tree. Where the text stops being JSON the tree holds a defect in
place of what should stand there, and nothing follows it. A reader that walks the tree from left
to right therefore meets shape errors and defects in the order of the text, and the first one
that it meets is the one to report.

A part that is passed over is checked less closely than one whose value is asked for, so a
defect says what it is in either case.
-/

namespace AbapNaming.Json

inductive Flaw
  /-- The text ends too early. -/
  | truncated
  /-- Something stands where it may not stand. -/
  | malformed
deriving DecidableEq, Repr

structure Defect where
  /-- The flaw for a reader that asks for the value. -/
  read : Flaw
  /-- The flaw for a reader that passes over the value. -/
  skipped : Flaw
deriving DecidableEq, Repr

namespace Defect

def truncated : Defect := ⟨.truncated, .truncated⟩

def malformed : Defect := ⟨.malformed, .malformed⟩

def cutNumber : Defect := ⟨.truncated, .malformed⟩

/-- What fails after an escape that stands for no character. -/
def afterLoneSurrogate (d : Defect) : Defect := { d with read := .malformed }

end Defect

structure Numeral where
  negative : Bool
  whole : List Char
  /-- Digits after the point; without a point there are none. -/
  fraction : List Char
  /-- The exponent's sign and digits. -/
  exponent : Option (Bool × List Char)
deriving DecidableEq, Repr

/-- A text without a value holds an escape that stands for no character. -/
abbrev TextToken := Option String

inductive Node
  | null
  | bool (b : Bool)
  | number (n : Numeral)
  | text (s : TextToken)
  /-- Without a defect the list is closed behind its items. -/
  | array (items : List Node) (defect : Option Defect)
  | object (members : List (TextToken × Node)) (defect : Option Defect)
  | broken (defect : Defect)

/-- A tree, and whether anything but white space follows it. -/
structure Document where
  root : Node
  hasMore : Bool

end AbapNaming.Json
