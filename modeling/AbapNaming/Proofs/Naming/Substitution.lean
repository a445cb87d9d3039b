import AbapNaming.Proofs.Naming.Roles

/-! # All tokens at once

Tokens are replaced one after another, in a text that changes on the way. Where no token is found
outside of its slots, in another token, or in the identifier of an earlier one, this comes to the
same as putting all identifiers into their slots at once. Each identifier is then the one that its
token gets in its turn, where it first occurs.
-/

namespace AbapNaming

open PathTemplate

namespace Naming

/-- The state in which the token is edited: those before it have been. -/
def inTurn (n : Naming) (tokens : List String) (token : String) : Naming :=
  n.afterTokens (tokens.takeWhile fun earlier => decide (earlier ≠ token))

/-- What the token becomes in its turn. -/
def identifierInTurn (n : Naming) (tokens : List String) (token : String) : String :=
  ((n.inTurn tokens token).edit token Role.pathValue.tag).1.value

/-- No token occurs between the slots, in another token, or in what an earlier one becomes. -/
structure Independent (n : Naming) (t : Template) : Prop where
  lead : ∀ q ∈ t.tokens, ¬ q.toList <:+: t.lead
  after : ∀ q ∈ t.tokens, ∀ s ∈ t.slots, ¬ q.toList <:+: s.after
  others : ∀ q ∈ t.tokens, ∀ p ∈ t.tokens, q ≠ p → ¬ q.toList <:+: p.toList
  earlier : t.tokens.Pairwise fun p q => ¬ q.toList <:+: (n.identifierInTurn t.tokens p).toList

theorem identifierInTurn_eq (n : Naming) {tokens : List String} {token : String}
    (h : token ∈ tokens) :
    n.identifierInTurn tokens token = (n.afterTokens tokens).pathIdentifier token := by
  induction tokens generalizing n with
  | nil => exact absurd h List.not_mem_nil
  | cons q tokens ih =>
    by_cases hq : q = token
    · subst hq
      have hfirst : n.inTurn (q :: tokens) q = n := by simp [inTurn, afterTokens]
      rw [(Extends.refl _).pathIdentifier_eq, identifierInTurn, hfirst, pathIdentifier]
    · have hlater : token ∈ tokens := (List.mem_cons.mp h).resolve_left (Ne.symm hq)
      have hturn : n.inTurn (q :: tokens) token =
          (n.edit q Role.pathValue.tag).2.inTurn tokens token := by
        simp [inTurn, hq, afterTokens]
      rw [afterTokens_cons, ← ih _ hlater, identifierInTurn, identifierInTurn, hturn]

theorem Independent.not_strays {n : Naming} {t : Template} (h : n.Independent t) {q : String}
    (hq : q ∈ t.tokens) : ¬ t.Strays q.toList := by
  rintro (hlead | ⟨s, hs, hafter | ⟨hne, hinside⟩⟩)
  · exact h.lead q hq hlead
  · exact h.after q hq s hs hafter
  · have htoken : s.token.toList = s.inside := String.toList_ofList
    rw [← htoken] at hne hinside
    exact h.others q hq s.token (t.token_mem hs) (fun hsame => hne (hsame ▸ rfl)) hinside

/-- Independent tokens are all replaced as if at once. The state is that of editing each of them,
in the order in which they first occur. -/
theorem renderPath_of_independent (n : Naming) (hplain : n.reserved.replacements = [])
    {t : Template} (h : n.Independent t) :
    n.renderPath t.path =
      .ok (String.ofList (t.fill (n.identifierInTurn t.tokens)).renderSpaced,
        n.afterTokens t.tokens) := by
  have hlast : ∀ p ∈ t.tokens,
      n.identifierInTurn t.tokens p = (n.afterTokens t.tokens).pathIdentifier p :=
    fun p hp => n.identifierInTurn_eq hp
  have hreached : t.tokens.Pairwise fun p q =>
      ¬ q.toList <:+: ((n.afterTokens t.tokens).pathIdentifier p).toList := by
    refine h.earlier.imp_of_mem fun {p q} hp _ hno => ?_
    rwa [hlast p hp] at hno
  have hbraces : ∀ p ∈ t.tokens, IsPlain ((n.afterTokens t.tokens).pathIdentifier p).toList :=
    fun p hp => isPlain_afterTokens hplain t hp
  have hfilled := (n.renderPath_fills_of_no_strays fun q hq => h.not_strays hq).mpr
    ⟨hreached.imp fun hno hoccurs => absurd hoccurs hno, hbraces⟩
  rw [t.fill_congr hlast]
  exact hfilled.1

/-- Ten characters at most. Another pet has come before, and one identifier is reserved. -/
def tenOfPet : Naming :=
  ((start { maxLength := 10, trimLength := 7 } ⟨["iv_p_id"], []⟩).edit "petName" "iv_p_").2

def sharedPetPath : Template where
  lead := "/tags/".toList
  slots := [⟨"petId".toList, "/".toList⟩, ⟨"id".toList, "/of/".toList⟩, ⟨"petId".toList, []⟩]

/-- One token is cut and numbered, and the other one escaped. -/
theorem renderPath_sharedPetPath :
    tenOfPet.reserved.replacements = [] ∧ tenOfPet.Independent sharedPetPath ∧
    tenOfPet.renderPath "/tags/\x7bpetId\x7d/\x7bid\x7d/of/\x7bpetId\x7d" =
      .ok ("/tags/\x7b iv_p_pe001 \x7d/\x7b _iv_p_id \x7d/of/\x7b iv_p_pe001 \x7d",
        tenOfPet.afterTokens ["petId", "id"]) := by
  have hindependent : tenOfPet.Independent sharedPetPath := by
    constructor <;> decide +kernel
  have hpath : sharedPetPath.path = "/tags/\x7bpetId\x7d/\x7bid\x7d/of/\x7bpetId\x7d" := rfl
  have htokens : sharedPetPath.tokens = ["petId", "id"] := by decide +kernel
  refine ⟨rfl, hindependent, ?_⟩
  rw [← hpath, renderPath_of_independent tenOfPet rfl hindependent, htokens]
  exact congrArg (fun path => Except.ok (path, tenOfPet.afterTokens ["petId", "id"]))
    (by decide +kernel)

end Naming

end AbapNaming
