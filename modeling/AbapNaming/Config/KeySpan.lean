import AbapNaming.Text.Blank
import AbapNaming.Text.Utf8

/-! # Where a key stands

A problem with a setting is shown at the setting's key. The key is looked for at the front of a
line, before an equals sign, so that a value that holds its text is not taken for it. Positions
count bytes of UTF-8.
-/

namespace AbapNaming

structure Span where
  offset : Nat
  length : Nat
deriving DecidableEq, Repr

/-- The lines of a text, each with its line end. -/
def lines : List Char → List (List Char)
  | [] => []
  | c :: cs =>
    if c = '\n' then [c] :: lines cs
    else match lines cs with
      | [] => [[c]]
      | l :: ls => (c :: l) :: ls

def assigns (key line : List Char) : Bool :=
  let text := Text.trimStart line
  key.isPrefixOf text && ['='].isPrefixOf (Text.trimStart (text.drop key.length))

/-- Looks for the key in lines of which the first begins at `offset`. -/
def findKeyFrom (key : List Char) (offset : Nat) : List (List Char) → Option Span
  | [] => none
  | line :: rest =>
    if assigns key line then
      some ⟨offset + Text.utf8Length (line.takeWhile Text.isBlank), Text.utf8Length key⟩
    else findKeyFrom key (offset + Text.utf8Length line) rest

/-- The first line's key that is assigned to under this name. -/
def findKey (text key : String) : Option Span :=
  findKeyFrom key.toList 0 (lines text.toList)

end AbapNaming
