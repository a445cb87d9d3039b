/-! # Roles of a name

A parameter is placed in the query, in the path, in the body or elsewhere. Its placement, and
whether it holds one value or many, decide the tag in front of its identifier.
-/

namespace AbapNaming

inductive Placement
  | query
  | path
  | body
  /-- Header, cookie and form parameters. -/
  | other
deriving DecidableEq, Repr

def Placement.label : Placement → String
  | .query => "Query"
  | .path => "Path"
  | .body => "Body"
  | .other => "Other"

/-- What an identifier stands for. -/
inductive Role
  | plain
  | queryTable
  | queryValue
  | pathTable
  | pathValue
  | typeCode
deriving DecidableEq, Repr

namespace Role

def all : List Role := [.plain, .queryTable, .queryValue, .pathTable, .pathValue, .typeCode]

def tag : Role → String
  | .plain => ""
  | .queryTable => "it_q_"
  | .queryValue => "iv_q_"
  | .pathTable => "it_p_"
  | .pathValue => "iv_p_"
  | .typeCode => "ty_"

/-- The role of a parameter's name in a request; only query and path parameters have one. -/
def ofParameter? : Placement → (isArray : Bool) → Option Role
  | .query, true => some .queryTable
  | .query, false => some .queryValue
  | .path, true => some .pathTable
  | .path, false => some .pathValue
  | .body, _ => none
  | .other, _ => none

end Role

end AbapNaming
