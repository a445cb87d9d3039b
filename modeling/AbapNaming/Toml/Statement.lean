import AbapNaming.Toml.Scalar

/-! # Statements of TOML

A TOML text is a list of statements, one to a line: an entry of the current table, or the header
that begins a table or another table of an array.
-/

namespace AbapNaming.Toml

inductive Statement
  | entry (key : List String) (value : Literal)
  | header (key : List String)
  | arrayHeader (key : List String)
deriving Repr

def maxNesting : Nat := 80

/-! Arrays and inline tables may go over several lines, with a line end wherever white space may
stand outside of a key, and may have a comma behind the last item. `room` says how many more levels
may be nested. Each nesting and each item takes a character, so the fuel lasts. -/

mutual

def readLiteral (fuel room : Nat) (text : List Char) : Scanned Literal :=
  match fuel with
  | 0 => none
  | fuel + 1 =>
    match text with
    | '"' :: _ => (scanText text).map fun (s, rest) => (.text (String.ofList s), rest)
    | '[' :: rest =>
      match room with
      | 0 => none
      | room + 1 => (readItems fuel room rest).map fun (items, rest) => (.array items, rest)
    | '{' :: rest =>
      match room with
      | 0 => none
      | room + 1 =>
        (readEntries fuel room rest).map fun (entries, rest) => (.inlineTable entries, rest)
    | c :: _ =>
      if c = apostrophe then
        (scanText text).map fun (s, rest) => (.text (String.ofList s), rest)
      else scanScalar text
    | [] => none

def readItems (fuel room : Nat) (text : List Char) : Scanned (List Literal) :=
  match fuel with
  | 0 => none
  | fuel + 1 =>
    match skipLines false text with
    | none => none
    | some (']' :: rest) => some ([], rest)
    | some text =>
      match readLiteral fuel room text with
      | none => none
      | some (item, rest) =>
        match skipLines false rest with
        | some (']' :: rest) => some ([item], rest)
        | some (',' :: rest) =>
          (readItems fuel room rest).map fun (items, rest) => (item :: items, rest)
        | _ => none

def readEntries (fuel room : Nat) (text : List Char) : Scanned (List (List String × Literal)) :=
  match fuel with
  | 0 => none
  | fuel + 1 =>
    match skipLines false text with
    | none => none
    | some ('}' :: rest) => some ([], rest)
    | some text =>
      match readEntry fuel room text with
      | none => none
      | some (entry, rest) =>
        match skipLines false rest with
        | some ('}' :: rest) => some ([entry], rest)
        | some (',' :: rest) =>
          (readEntries fuel room rest).map fun (entries, rest) => (entry :: entries, rest)
        | _ => none

/-- An entry of an inline table: a key, an equals sign and a value. -/
def readEntry (fuel room : Nat) (text : List Char) : Scanned (List String × Literal) :=
  match fuel with
  | 0 => none
  | fuel + 1 =>
    match scanKey maxKeyParts text with
    | none => none
    | some (key, rest) =>
      match skipLines false rest with
      | some ('=' :: rest) =>
        match skipLines false rest with
        | none => none
        | some text => (readLiteral fuel room text).map fun (value, rest) => ((key, value), rest)
      | _ => none

end

/-- Enough fuel for any literal in a text of this length. -/
def literalFuel (text : List Char) : Nat := 3 * text.length + 3

def readStatement (text : List Char) : Scanned Statement :=
  match text with
  | '[' :: '[' :: rest =>
    match scanKey maxKeyParts rest with
    | some (key, ']' :: ']' :: rest) => some (.arrayHeader key, rest)
    | _ => none
  | '[' :: rest =>
    match scanKey maxKeyParts rest with
    | some (key, ']' :: rest) => some (.header key, rest)
    | _ => none
  | text =>
    match scanKey maxKeyParts text with
    | some (key, '=' :: rest) =>
      (readLiteral (literalFuel rest) maxNesting (skipSpace rest)).map fun (value, rest) =>
        (.entry key value, rest)
    | _ => none

def readStatements (fuel : Nat) (text : List Char) : Option (List Statement) :=
  match fuel with
  | 0 => none
  | fuel + 1 =>
    match skipLines false text with
    | none => none
    | some [] => some []
    | some text =>
      match readStatement text with
      | none => none
      | some (statement, rest) =>
        match skipLineEnd rest with
        | none => none
        | some rest => (readStatements fuel rest).map (statement :: ·)

/-- The mark that some editors put in front of a text. -/
def byteOrderMark : Char := Char.ofNat 0xFEFF

/-- The statements of a text; nothing if it is no TOML. -/
def Statement.ofText (text : List Char) : Option (List Statement) :=
  let text := if text.head? = some byteOrderMark then text.drop 1 else text
  readStatements (text.length + 1) text

end AbapNaming.Toml
