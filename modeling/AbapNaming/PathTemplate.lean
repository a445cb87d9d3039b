/-! # Path templates

A path template is a text with placeholders in braces, such as `/pets/{petId}`. Braces come
in pairs, pairs do not nest, and a placeholder is not empty. Positions count bytes of UTF-8.
-/

namespace AbapNaming

/-- A placeholder's text and the position of its opening brace. -/
structure Placeholder where
  text : String
  offset : Nat
deriving DecidableEq, Repr

inductive PathDefect
  /-- An opening brace is never closed. -/
  | unterminated
  /-- A brace opens inside a placeholder. -/
  | nested
  /-- A brace closes nothing. -/
  | unmatchedClose
  /-- Nothing stands between the braces. -/
  | emptyPlaceholder
deriving DecidableEq, Repr

def PathDefect.message : PathDefect → String
  | .unterminated => "unterminated '\x7b'"
  | .nested => "nested '\x7b' inside a placeholder"
  | .unmatchedClose => "'\x7d' without a matching '\x7b'"
  | .emptyPlaceholder => "empty placeholder"

/-- A path that is no template, with its first defect and the position of the brace at fault. -/
structure PathError where
  path : String
  offset : Nat
  defect : PathDefect
deriving DecidableEq, Repr

def PathError.message (e : PathError) : String :=
  "malformed path template '" ++ e.path ++ "' at byte " ++ toString e.offset ++ ": " ++
    e.defect.message

namespace PathTemplate

def openBrace : Char := '{'

def closeBrace : Char := '}'

/-- An opening brace that waits for its partner: its position and the characters since, the
last one first. -/
structure Opening where
  offset : Nat
  since : List Char
deriving DecidableEq, Repr

/-- Reads on at position `pos`, inside a placeholder or outside. -/
def scanFrom (pos : Nat) (opening : Option Opening) :
    List Char → Except (Nat × PathDefect) (List Placeholder)
  | [] =>
    match opening with
    | some o => .error (o.offset, .unterminated)
    | none => .ok []
  | c :: cs =>
    let next := pos + c.utf8Size
    match opening with
    | none =>
      if c = openBrace then scanFrom next (some ⟨pos, []⟩) cs
      else if c = closeBrace then .error (pos, .unmatchedClose)
      else scanFrom next none cs
    | some o =>
      if c = openBrace then .error (pos, .nested)
      else if c = closeBrace then
        if o.since.isEmpty then .error (o.offset, .emptyPlaceholder)
        else (scanFrom next none cs).map (⟨String.ofList o.since.reverse, o.offset⟩ :: ·)
      else scanFrom next (some ⟨o.offset, c :: o.since⟩) cs

/-- The placeholders of a path from left to right, or its first defect. -/
def placeholders (path : String) : Except PathError (List Placeholder) :=
  match scanFrom 0 none path.toList with
  | .ok found => .ok found
  | .error (offset, defect) => .error ⟨path, offset, defect⟩

def tokens (found : List Placeholder) : List String := (found.map Placeholder.text).eraseDups

/-- Sets the braces apart from what stands between them by a space. -/
def padBraces (cs : List Char) : List Char :=
  cs.flatMap fun c =>
    if c = openBrace then [openBrace, ' ']
    else if c = closeBrace then [' ', closeBrace]
    else [c]

end PathTemplate

end AbapNaming
