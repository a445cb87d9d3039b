/-! # Texts and keys of TOML

What a TOML text may hold behind an equals sign, and the readers for texts and keys. A reader
takes characters and gives back what it read with the rest of the text, or nothing if the text is
no TOML.
-/

namespace AbapNaming.Toml

/-- A value as it is written. Keys are lists because of the dotted ones. -/
inductive Literal
  | text (s : String)
  | integer (n : Int)
  /-- A date or a time in its standard form. -/
  | moment (form : String)
  /-- A float, a truth value, or digits that make no number. -/
  | other
  | array (items : List Literal)
  | inlineTable (entries : List (List String × Literal))
deriving Repr

abbrev Scanned (α : Type) := Option (α × List Char)

def isSpace (c : Char) : Bool := c == ' ' || c == '\t'

def skipSpace (cs : List Char) : List Char := cs.dropWhile isSpace

def isControl (c : Char) : Bool := (c.toNat < 32 && c != '\t') || c.toNat == 127

/-- The quotation mark of texts without escapes. -/
def apostrophe : Char := Char.ofNat 39

/-- Passes over white space, line ends and comments; `inComment` says that one has begun. -/
def skipLines (inComment : Bool) : List Char → Option (List Char)
  | [] => some []
  | c :: cs =>
    if c = '\n' then skipLines false cs
    else if c = '\r' then
      if cs.head? = some '\n' then skipLines inComment cs else none
    else if inComment then
      if isControl c then none else skipLines true cs
    else if isSpace c then skipLines false cs
    else if c = '#' then skipLines true cs
    else some (c :: cs)

def skipLineEnd (cs : List Char) : Option (List Char) :=
  match skipSpace cs with
  | [] => some []
  | '\n' :: rest => some rest
  | '\r' :: '\n' :: rest => some rest
  | '#' :: rest => skipLines true rest
  | _ => none

/-! ## Texts -/

def hexDigit? (c : Char) : Option Nat :=
  if c.isDigit then some (c.toNat - 48)
  else if 'a' ≤ c ∧ c ≤ 'f' then some (c.toNat - 87)
  else if 'A' ≤ c ∧ c ≤ 'F' then some (c.toNat - 55)
  else none

def hexChar? (length : Nat) (cs : List Char) : Option Char :=
  if cs.length < length then none
  else match (cs.take length).mapM hexDigit? with
    | none => none
    | some digits =>
      let n := digits.foldl (fun n d => 16 * n + d) 0
      if n.isValidChar then some (Char.ofNat n) else none

/-- The character that an escape stands for, and the length of the escape behind its
backslash. -/
def escape? : List Char → Option (Char × Nat)
  | [] => none
  | c :: cs =>
    match c with
    | 'b' => some (Char.ofNat 8, 1)
    | 't' => some ('\t', 1)
    | 'n' => some ('\n', 1)
    | 'f' => some (Char.ofNat 12, 1)
    | 'r' => some ('\r', 1)
    | 'e' => some (Char.ofNat 27, 1)
    | '"' => some ('"', 1)
    | '\\' => some ('\\', 1)
    | 'x' => (hexChar? 2 cs).map fun c => (c, 3)
    | 'u' => (hexChar? 4 cs).map fun c => (c, 5)
    | 'U' => (hexChar? 8 cs).map fun c => (c, 9)
    | _ => none

def pushFront (c : Char) (s : Scanned (List Char)) : Scanned (List Char) :=
  s.map fun (text, rest) => (c :: text, rest)

/-- Reads a text of one line; `skip` characters still belong to an escape. -/
def scanBasic : (skip : Nat) → List Char → Scanned (List Char)
  | _, [] => none
  | skip + 1, _ :: cs => scanBasic skip cs
  | 0, c :: cs =>
    if c = '"' then some ([], cs)
    else if c = '\\' then
      match escape? cs with
      | some (e, length) => pushFront e (scanBasic length cs)
      | none => none
    else if isControl c then none
    else pushFront c (scanBasic 0 cs)

def scanRaw : List Char → Scanned (List Char)
  | [] => none
  | c :: cs =>
    if c = apostrophe then some ([], cs)
    else if isControl c then none
    else pushFront c (scanRaw cs)

/-- The quotes at the end of a text of several lines: three close it, and up to two before them
belong to it. -/
def closing? (quote : Char) (cs : List Char) : Scanned (List Char) :=
  let run := (cs.takeWhile (· == quote)).length
  if run < 3 then none
  else some (List.replicate (min run 5 - 3) quote, cs.drop (min run 5))

def isBreak (c : Char) (cs : List Char) : Bool :=
  c == '\n' || (c == '\r' && cs.head? == some '\n')

/-- How much white space stands in front, line ends included, which have to be whole. -/
def gapLength? : List Char → Option Nat
  | [] => some 0
  | c :: cs =>
    if isSpace c || isBreak c cs then (gapLength? cs).map (· + 1)
    else if c = '\r' then none
    else some 0

/-- A backslash at the end of a line joins it to the next text: how much is passed over. -/
def lineJoin? (cs : List Char) : Option Nat :=
  match skipSpace cs with
  | '\n' :: _ => gapLength? cs
  | '\r' :: '\n' :: _ => gapLength? cs
  | _ => none

def scanBasicLines : (skip : Nat) → List Char → Scanned (List Char)
  | _, [] => none
  | skip + 1, _ :: cs => scanBasicLines skip cs
  | 0, c :: cs =>
    match closing? '"' (c :: cs) with
    | some (quotes, rest) => some (quotes, rest)
    | none =>
      if c = '\\' then
        match lineJoin? cs with
        | some length => scanBasicLines length cs
        | none =>
          match escape? cs with
          | some (e, length) => pushFront e (scanBasicLines length cs)
          | none => none
      else if isControl c && !isBreak c cs then none
      else pushFront c (scanBasicLines 0 cs)

def scanRawLines : List Char → Scanned (List Char)
  | [] => none
  | c :: cs =>
    match closing? apostrophe (c :: cs) with
    | some (quotes, rest) => some (quotes, rest)
    | none =>
      if isControl c && !isBreak c cs then none
      else pushFront c (scanRawLines cs)

/-- A line end right behind the opening quotes does not count. -/
def dropFirstBreak : List Char → List Char
  | '\n' :: cs => cs
  | '\r' :: '\n' :: cs => cs
  | cs => cs

def scanText (cs : List Char) : Scanned (List Char) :=
  match cs with
  | '"' :: '"' :: '"' :: rest => scanBasicLines 0 (dropFirstBreak rest)
  | '"' :: rest => scanBasic 0 rest
  | c :: rest =>
    if c = apostrophe then
      if rest.take 2 = [apostrophe, apostrophe] then
        scanRawLines (dropFirstBreak (rest.drop 2))
      else scanRaw rest
    else none
  | [] => none

/-! ## Keys -/

def isBareKeyChar (c : Char) : Bool := c.isAlphanum || c == '_' || c == '-'

def scanKeyPart (cs : List Char) : Scanned String :=
  match cs with
  | '"' :: rest => (scanBasic 0 rest).map fun (s, rest) => (String.ofList s, rest)
  | c :: rest =>
    if c = apostrophe then (scanRaw rest).map fun (s, rest) => (String.ofList s, rest)
    else
      let part := cs.takeWhile isBareKeyChar
      if part.isEmpty then none else some (String.ofList part, cs.dropWhile isBareKeyChar)
  | [] => none

def maxKeyParts : Nat := 80

/-- Reads a key of `most` parts at most, with its dots and the space behind it. -/
def scanKey (most : Nat) (cs : List Char) : Scanned (List String) :=
  match most with
  | 0 => none
  | most + 1 =>
    match scanKeyPart (skipSpace cs) with
    | none => none
    | some (part, rest) =>
      match skipSpace rest with
      | '.' :: rest => (scanKey most rest).map fun (parts, rest) => (part :: parts, rest)
      | rest => some ([part], rest)

end AbapNaming.Toml
