import AbapNaming.KeyedList

/-! # Reserved words

A name that is a word of the language, or that starts with a digit or with `@`, cannot be used
as it stands. It gets an underscore in front, or the spelling that was configured for it.
-/

namespace AbapNaming

/-- ABAP keywords, in lowercase like every edited name. -/
def abapKeywords : List String := [
  "abstract", "add", "alias", "aliases", "and", "append", "as", "assign", "at", "begin", "break",
  "call", "case", "catch", "check", "class", "clear", "collect", "commit", "compute",
  "concatenate", "condense", "constants", "continue", "create", "data", "default", "define",
  "delete", "describe", "divide", "do", "else", "elseif", "end", "endcase", "endclass", "endif",
  "endloop", "endmethod", "endtry", "endwhile", "event", "events", "exit", "export", "field",
  "final", "find", "for", "form", "format", "free", "from", "function", "get", "if", "import",
  "in", "include", "insert", "interface", "into", "is", "join", "key", "like", "loop", "message",
  "method", "methods", "modify", "module", "move", "new", "not", "of", "on", "or", "other",
  "private", "protected", "public", "raise", "raising", "read", "ref", "report", "return",
  "rollback", "select", "set", "shift", "sort", "split", "static", "structure", "submit",
  "table", "tables", "to", "translate", "try", "type", "types", "update", "using", "value",
  "when", "where", "while", "with", "write"]

/-- Words that may not stand as identifiers, without repeats, and spellings chosen for some. -/
structure Reserved where
  words : List String
  replacements : KeyedList String
deriving DecidableEq, Repr

namespace Reserved

def empty : Reserved := ⟨[], []⟩

def addWord (r : Reserved) (word : String) : Reserved :=
  if word ∈ r.words then r else { r with words := r.words ++ [word] }

def addWords (r : Reserved) (words : List String) : Reserved := words.foldl addWord r

/-- Reserves a word and says how it is spelt instead; the last spelling given counts. -/
def addReplacement (r : Reserved) (word spelling : String) : Reserved :=
  { r.addWord word with replacements := r.replacements.insert word spelling }

def addReplacements (r : Reserved) (spellings : List (String × String)) : Reserved :=
  spellings.foldl (fun r s => r.addReplacement s.1 s.2) r

def abap : Reserved := empty.addWords abapKeywords

def startsBadly : List Char → Bool
  | [] => false
  | c :: _ => c.isDigit || c == '@'

def contains (r : Reserved) (name : String) : Bool := decide (name ∈ r.words)

def mustEscape (r : Reserved) (name : String) : Bool :=
  r.contains name || startsBadly name.toList

/-- The spelling chosen for the name, or the name behind an underscore. -/
def escape (r : Reserved) (name : String) : String :=
  (r.replacements.get? name).getD (String.ofList ('_' :: name.toList))

end Reserved

end AbapNaming
