import AbapNaming.Text.Blank

/-! # Remarks made from descriptions

A description becomes an end-of-line comment of ABAP: a double quote and then as many whole
sentences as fit. Sentences end at full stops and are trimmed. If not even the first one fits it
is cut.
-/

namespace AbapNaming.Remark

/-- The pieces of a text between its full stops. -/
def pieces : List Char → List (List Char)
  | [] => [[]]
  | c :: cs =>
    if c = '.' then [] :: pieces cs
    else match pieces cs with
      | [] => [[c]]
      | p :: ps => (c :: p) :: ps

/-- Leaves off the empty pieces at the end, but a text of one piece keeps it. -/
def dropEmptyEnd (ps : List (List Char)) : List (List Char) :=
  if ps.length ≤ 1 then ps else (ps.reverse.dropWhile List.isEmpty).reverse

/-- The sentences of a text, each trimmed and closed by a full stop. -/
def sentences (cs : List Char) : List (List Char) :=
  (dropEmptyEnd (pieces cs)).map fun p => Text.trim p ++ ['.']

/-- Takes sentences while they fit behind the `used` characters taken before. -/
def fit (maxLength used : Nat) : List (List Char) → List Char
  | [] => []
  | s :: ss =>
    if maxLength < used + s.length then
      if used = 0 then s.take maxLength else []
    else s ++ fit maxLength (used + s.length) ss

def chars (maxLength : Nat) (cs : List Char) : List Char :=
  '"' :: fit maxLength 0 (sentences cs)

/-- The remark for a description; nothing at all where there is none. -/
def ofDescription (maxLength : Nat) : Option String → String
  | none => ""
  | some text => String.ofList (chars maxLength text.toList)

end AbapNaming.Remark
