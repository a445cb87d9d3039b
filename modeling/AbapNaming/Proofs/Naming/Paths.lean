import AbapNaming.Proofs.Identifier.Reserved
import AbapNaming.Proofs.Identifier.Snake
import AbapNaming.Proofs.Lint.Paths
import AbapNaming.Proofs.Naming.Stability
import AbapNaming.Proofs.PathTemplate.Filling

/-! # Identifiers in paths

The tokens of a path are edited one after the other and replaced one after the other. Without
findings no token strays, so the path becomes what it should be unless a token occurs in the
identifier of an earlier one. The findings rule that out for candidates, not for identifiers that
were cut or escaped.
-/

namespace AbapNaming

open PathTemplate

namespace Naming

def afterTokens (n : Naming) (tokens : List String) : Naming :=
  tokens.foldl (fun n token => (n.edit token Role.pathValue.tag).2) n

def pathIdentifier (n : Naming) (token : String) : String :=
  (n.edit token Role.pathValue.tag).1.value

theorem afterTokens_cons (n : Naming) (token : String) (tokens : List String) :
    n.afterTokens (token :: tokens) = (n.edit token Role.pathValue.tag).2.afterTokens tokens := by
  rw [afterTokens, List.foldl_cons, afterTokens]

theorem extends_afterTokens (n : Naming) (tokens : List String) :
    n.Extends (n.afterTokens tokens) := by
  induction tokens generalizing n with
  | nil => exact Extends.refl n
  | cons token tokens ih =>
    rw [afterTokens_cons]
    exact (n.extends_edit token _).trans (ih _)

/-- What a token gets in its turn is what every state after it gives the token. -/
theorem Extends.pathIdentifier_eq {n n' : Naming} {token : String} {tokens : List String}
    (h : (n.afterTokens (token :: tokens)).Extends n') :
    n'.pathIdentifier token = n.pathIdentifier token := by
  rw [afterTokens_cons] at h
  rw [pathIdentifier, pathIdentifier, ((extends_afterTokens _ tokens).trans h).edit_eq_of_edited]

theorem substitute_eq (n : Naming) (tokens : List String) (cs : List Char) {n' : Naming}
    (h : (n.afterTokens tokens).Extends n') :
    n.substitute tokens cs = (replaceEach n'.pathIdentifier tokens cs, n.afterTokens tokens) := by
  induction tokens generalizing n cs with
  | nil => rfl
  | cons token tokens ih =>
    have hvalue := h.pathIdentifier_eq
    rw [afterTokens_cons] at h ⊢
    rw [substitute, replaceEach, List.foldl_cons, hvalue]
    exact ih _ _ h

theorem renderPath_of_found (n : Naming) {path : String} {found : List Placeholder}
    (h : placeholders path = .ok found) :
    n.renderPath path = .ok (String.ofList (padBraces (replaceEach
      (n.afterTokens (tokens found)).pathIdentifier (tokens found) path.toList)),
        n.afterTokens (tokens found)) := by
  simp only [renderPath, h, n.substitute_eq _ _ (Extends.refl _)]

theorem renderPath_template (n : Naming) (t : Template) :
    n.renderPath t.path = .ok (String.ofList (padBraces (replaceEach
      (n.afterTokens t.tokens).pathIdentifier t.tokens t.render)), n.afterTokens t.tokens) := by
  rw [n.renderPath_of_found t.placeholders_path, t.tokens_found, Template.path,
    String.toList_ofList]

/-- Where no token strays, each slot gets the identifier of its token and keeps it exactly if no
token reaches the identifier of an earlier one, other than to put itself back, and no identifier
has braces. -/
theorem renderPath_fills_of_no_strays (n : Naming) {t : Template}
    (hstray : ∀ q ∈ t.tokens, ¬ t.Strays q.toList) :
    let n' := n.afterTokens t.tokens
    let identifier := n'.pathIdentifier
    n.renderPath t.path = .ok (String.ofList (t.fill identifier).renderSpaced, n') ∧
        Unaltered identifier t.tokens ↔
      (t.tokens.Pairwise fun p q => q.toList <:+: (identifier p).toList → identifier q = q) ∧
        ∀ p ∈ t.tokens, IsPlain (identifier p).toList := by
  intro n' identifier
  rw [n.renderPath_template t, ← t.unaltered_iff, ← t.fill_padded_iff, and_comm]
  refine and_congr_right fun hun => ?_
  rw [t.replaceEach_eq_fill hstray hun]
  simp [n', identifier, String.ofList_inj]

theorem pathIdentifier_of_unfitted {n : Naming} {token : String}
    (htruncated : (n.edit token Role.pathValue.tag).1.truncated = false)
    (hescaped : (n.edit token Role.pathValue.tag).1.escaped = false) :
    n.pathIdentifier token = pathCandidate token := by
  simp only [edit] at htruncated hescaped
  have hfitted : n.fitted (candidate token Role.pathValue.tag) = pathCandidate token := by
    rw [fitted, htruncated, if_neg Bool.false_ne_true, candidate, pathCandidate]
  rw [hfitted] at hescaped
  rw [pathIdentifier, edit, hfitted]
  simp only [hescaped, if_neg Bool.false_ne_true]

end Naming

theorem isPlain_pathCandidate {token : String} (h : IsPlain token.toList) :
    IsPlain (pathCandidate token).toList := by
  have htag : IsPlain Role.pathValue.tag.toList := by decide +kernel
  have hsnake := Snake.isPlain_ofName h
  rw [pathCandidate, String.toList_append]
  exact ⟨by simp [htag.1, hsnake.1], by simp [htag.2, hsnake.2]⟩

/-- Where there are no findings on a path, each slot gets the identifier of its token and keeps it
exactly if no token reaches the identifier of an earlier one, other than to put itself back, and
no identifier has braces. That is so wherever no identifier was cut or escaped. -/
theorem renderPath_fills_iff (n : Naming) {o : Operation} {t : Template} (hpath : o.path = t.path)
    (hclean : o.pathFindings = []) :
    let n' := n.afterTokens t.tokens
    let identifier := n'.pathIdentifier
    (n.renderPath o.path = .ok (String.ofList (t.fill identifier).renderSpaced, n') ∧
        Unaltered identifier t.tokens ↔
      (t.tokens.Pairwise fun p q => q.toList <:+: (identifier p).toList → identifier q = q) ∧
        ∀ p ∈ t.tokens, IsPlain (identifier p).toList) ∧
    ((∀ p ∈ t.tokens, (n'.edit p Role.pathValue.tag).1.truncated = false ∧
        (n'.edit p Role.pathValue.tag).1.escaped = false) →
      n.renderPath o.path = .ok (String.ofList (t.fill identifier).renderSpaced, n') ∧
        Unaltered identifier t.tokens) := by
  intro n' identifier
  obtain ⟨hstray, hcandidates⟩ := (Operation.pathFindings_eq_nil_iff hpath).mp hclean
  have hfills := n.renderPath_fills_of_no_strays fun q hq => (hstray q hq).1
  rw [← hpath] at hfills
  refine ⟨hfills, fun hfitted => hfills.mpr ?_⟩
  have hidentifier : ∀ p ∈ t.tokens, identifier p = pathCandidate p := fun p hp =>
    Naming.pathIdentifier_of_unfitted (hfitted p hp).1 (hfitted p hp).2
  change (t.tokens.Pairwise fun p q => q.toList <:+: (identifier p).toList → identifier q = q) ∧
    ∀ p ∈ t.tokens, IsPlain (identifier p).toList
  constructor
  · refine hcandidates.imp_of_mem fun {p q} hp _ hno hoccurs => ?_
    rw [hidentifier p hp] at hoccurs
    exact absurd hoccurs hno
  · intro p hp
    rw [hidentifier p hp]
    exact isPlain_pathCandidate (t.token_plain hp)

def toyPath : Template where
  lead := "/pets/".toList
  slots := [⟨"petId".toList, "/toys/".toList⟩, ⟨"toyId".toList, []⟩]

def getToy : Operation where
  operationId := "getToy"
  path := toyPath.path
  params := [{ baseName := "petId", isPath := true }, { baseName := "toyId", isPath := true }]

theorem renderPath_getToy :
    let n := ({} : NamingSettings).start
    getToy.path = toyPath.path ∧ getToy.pathFindings = [] ∧
    n.renderPath getToy.path =
      .ok ("/pets/{ iv_p_pet_id }/toys/{ iv_p_toy_id }", n.afterTokens toyPath.tokens) := by
  rw [NamingSettings.start_default]
  intro n
  have hclean : getToy.pathFindings = [] := by decide +kernel
  have hpath : getToy.path = toyPath.path := rfl
  obtain ⟨-, hfitted⟩ := renderPath_fills_iff n hpath hclean
  obtain ⟨hfilled, -⟩ := hfitted (by decide +kernel)
  refine ⟨hpath, hclean, hfilled.trans ?_⟩
  exact congrArg (fun path => Except.ok (path, n.afterTokens toyPath.tokens)) (by decide +kernel)

/-- The first token is cut and numbered, and the second one looks like its number. -/
def partPath : Template where
  lead := "/things/".toList
  slots := [⟨"aVeryLongPathParameterIdentifierName".toList, "/parts/".toList⟩, ⟨"000".toList, []⟩]

def getPart : Operation where
  operationId := "getPart"
  path := partPath.path
  params := [{ baseName := "aVeryLongPathParameterIdentifierName", isPath := true },
    { baseName := "000", isPath := true }]

/-- The number of a cut identifier can be reached although nothing was found. -/
theorem renderPath_getPart :
    let n := ({} : NamingSettings).start
    let n' := n.afterTokens partPath.tokens
    getPart.path = partPath.path ∧ getPart.pathFindings = [] ∧
    n.renderPath getPart.path =
      .ok ("/things/{ iv_p_a_very_long_path_paramiv_p_000 }/parts/{ iv_p_000 }", n') ∧
    String.ofList (partPath.fill n'.pathIdentifier).renderSpaced =
      "/things/{ iv_p_a_very_long_path_param000 }/parts/{ iv_p_000 }" := by
  rw [NamingSettings.start_default]
  intro n n'
  refine ⟨rfl, by decide +kernel, ?_, by decide +kernel⟩
  refine (n.renderPath_template partPath).trans ?_
  exact congrArg (fun path => Except.ok (path, n')) (by decide +kernel)

end AbapNaming
