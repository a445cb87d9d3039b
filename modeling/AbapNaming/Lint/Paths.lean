import AbapNaming.Identifier.Snake
import AbapNaming.Lint.Basic
import AbapNaming.PathTemplate
import AbapNaming.Text.Search

/-! # Paths whose placeholders go wrong

Identifiers are put into a path by replacing the text of each placeholder in turn. That reaches
other places than the placeholder itself if its text occurs outside braces or inside an
identifier that has been put in before. A placeholder should also be declared as a parameter.
-/

namespace AbapNaming

inductive PathFinding
  | malformed (error : PathError)
  | insideEarlier (token edited earlier : String)
  | outsideBraces (token path : String)
  | undeclared (token : String)
deriving DecidableEq, Repr

namespace PathFinding

def severity : PathFinding → Severity
  | .malformed _ => .error
  | .insideEarlier _ _ _ => .warning
  | .outsideBraces _ _ => .warning
  | .undeclared _ => .warning

def message : PathFinding → String
  | .malformed e => e.message
  | .insideEarlier token edited earlier =>
    "placeholder '" ++ token ++ "' occurs in '" ++ edited ++ "', the rewritten form of '" ++
      earlier ++ "'"
  | .outsideBraces token path =>
    "placeholder '" ++ token ++ "' also appears outside braces in '" ++ path ++ "'"
  | .undeclared token => "placeholder '" ++ token ++ "' has no matching path parameter"

end PathFinding

def braced (token : List Char) : List Char :=
  PathTemplate.openBrace :: token ++ [PathTemplate.closeBrace]

/-- The identifier of a path parameter before it is fitted. -/
def pathCandidate (token : String) : String := Role.pathValue.tag ++ Snake.ofName token

/-- Does the token's text match more often than the token in its braces? -/
def isOutsideBraces (path token : String) : Bool :=
  decide (Text.count (braced token.toList) path.toList < Text.count token.toList path.toList)

/-- Findings on tokens in their order; `earlier` holds the tokens passed with their
candidates. -/
def tokenFindings (path : String) (declared : List String) (earlier : KeyedList String) :
    List String → List PathFinding
  | [] => []
  | token :: tokens =>
    (match earlier.find? fun e => Text.occursIn token.toList e.2.toList with
      | some (first, edited) => [.insideEarlier token edited first]
      | none => []) ++
    (if isOutsideBraces path token then [.outsideBraces token path] else []) ++
    (if token ∈ declared then [] else [.undeclared token]) ++
    tokenFindings path declared (earlier ++ [(token, pathCandidate token)]) tokens

def Operation.pathParameters (o : Operation) : List String :=
  (o.params.filter fun p => decide (p.placement = .path)).map (·.baseName)

def Operation.pathFindings (o : Operation) : List PathFinding :=
  match PathTemplate.placeholders o.path with
  | .error e => [.malformed e]
  | .ok found => tokenFindings o.path o.pathParameters [] (PathTemplate.tokens found)

def pathDiagnostics (o : Operation) (location : String) : List Diagnostic :=
  o.pathFindings.map fun f => ⟨f.severity, lintPhase, f.message, some location⟩

def Lint.paths : Lint where
  name := "path-template"
  description := "Check path placeholders are well-formed and match path parameters"
  check d := d.apis.flatMap fun a =>
    a.operations.flatMap fun o => pathDiagnostics o (o.locationIn a.location)

end AbapNaming
