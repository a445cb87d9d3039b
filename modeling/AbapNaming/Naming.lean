import AbapNaming.Identifier.Snake
import AbapNaming.Identifier.Reserved
import AbapNaming.Identifier.Buckets
import AbapNaming.Identifier.Role
import AbapNaming.Identifier.InterfaceName
import AbapNaming.TypeCodes
import AbapNaming.PathTemplate
import AbapNaming.Remark
import AbapNaming.Text.Search

/-! # The naming state of a run

All names of a run are edited through one state: the limits and reserved words it was started
with, the buckets of shortened names and the type codes given so far. The same name with the
same tag always gets the same identifier back.
-/

namespace AbapNaming

structure Limits where
  /-- The longest identifier that is kept whole. -/
  maxLength : Nat := 30
  /-- How much of a longer one is kept, and shared by its bucket. -/
  trimLength : Nat := 27
  globalMaxLength : Nat := 26
  descriptionMaxLength : Nat := 60
deriving DecidableEq, Repr

/-- An identifier, and what was done to fit it. -/
structure Edited where
  value : String
  truncated : Bool
  escaped : Bool
deriving DecidableEq, Repr

structure Naming where
  limits : Limits
  reserved : Reserved
  buckets : Buckets
  types : TypeCodes
deriving DecidableEq, Repr

namespace Naming

/-- A state in which nothing has been named yet. -/
def start (limits : Limits) (reserved : Reserved) : Naming :=
  ⟨limits, reserved, Buckets.empty limits.trimLength, TypeCodes.empty⟩

/-- The tag and the snake form of a name, before it is fitted. -/
def candidate (name tag : String) : String := tag ++ Snake.ofName name

def isLong (n : Naming) (name : String) : Bool := decide (n.limits.maxLength < name.length)

/-- A candidate cut to length where it is too long. -/
def fitted (n : Naming) (name : String) : String :=
  if n.isLong name then n.buckets.shortForm name else name

def bucketsWith (n : Naming) (name : String) : Buckets :=
  if n.isLong name then n.buckets.add name else n.buckets

/-- The identifier for a name behind a tag: snake case, cut to length, then escaped. -/
def edit (n : Naming) (name tag : String) : Edited × Naming :=
  let whole := candidate name tag
  let short := n.fitted whole
  let escaped := n.reserved.mustEscape short
  (⟨if escaped then n.reserved.escape short else short, n.isLong whole, escaped⟩,
    { n with buckets := n.bucketsWith whole })

def intern (n : Naming) (name tag : String) : String × Naming :=
  let (code, types) := n.types.assign name tag
  (code, { n with types })

/-- Edits the tokens one after the other and puts each identifier in the place of every
occurrence of the token's text, inside braces or outside. -/
def substitute (n : Naming) : List String → List Char → List Char × Naming
  | [], path => (path, n)
  | token :: tokens, path =>
    let (edited, n') := n.edit token Role.pathValue.tag
    n'.substitute tokens (Text.replace token.toList edited.value.toList path)

/-- A path whose placeholders carry the identifiers of their parameters, with a space inside
each brace. A malformed path changes nothing. -/
def renderPath (n : Naming) (path : String) : Except PathError (String × Naming) :=
  match PathTemplate.placeholders path with
  | .error e => .error e
  | .ok found =>
    let (filled, n') := n.substitute (PathTemplate.tokens found) path.toList
    .ok (String.ofList (PathTemplate.padBraces filled), n')

def interfaceName (n : Naming) (title : String) : String :=
  InterfaceName.format n.limits.globalMaxLength title

def remark (n : Naming) (description : Option String) : String :=
  Remark.ofDescription n.limits.descriptionMaxLength description

end Naming

end AbapNaming
