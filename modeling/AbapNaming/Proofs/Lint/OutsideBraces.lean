import Mathlib.Data.List.Nodup
import AbapNaming.Proofs.Naming.Paths
import AbapNaming.Proofs.PathTemplate.Reading

/-! # Tokens outside of their braces

A token is looked at once, so it is told once that its text stands outside of its braces, and that
is told exactly if it does. No other finding on the path has that message: the path has braces, and
the other messages have none.
-/

namespace AbapNaming

open PathTemplate

instance (l : Layout) (token : List Char) : Decidable (l.Strays token) :=
  inferInstanceAs (Decidable (_ ∨ _))

theorem count_outsideBraces (path : String) (declared : List String) (earlier : KeyedList String)
    (tokens : List String) (p : String) :
    (tokenFindings path declared earlier tokens).count (.outsideBraces p path) =
      if isOutsideBraces path p then tokens.count p else 0 := by
  induction tokens generalizing earlier with
  | nil => simp [tokenFindings]
  | cons token tokens ih =>
    have hstray : (if isOutsideBraces path token then [PathFinding.outsideBraces token path]
        else []).count (.outsideBraces p path) =
          if isOutsideBraces path p ∧ token = p then 1 else 0 := by
      by_cases htoken : token = p
      · subst htoken
        by_cases houtside : isOutsideBraces path token = true <;> simp [houtside]
      · by_cases houtside : isOutsideBraces path token = true <;> simp [houtside, htoken]
    have hundeclared : (if token ∈ declared then [] else [PathFinding.undeclared token]).count
        (.outsideBraces p path) = 0 := by
      by_cases hdeclared : token ∈ declared <;> simp [hdeclared]
    have hnew : (if isOutsideBraces path p ∧ token = p then 1 else 0) +
        (if isOutsideBraces path p then tokens.count p else 0) =
          if isOutsideBraces path p then (token :: tokens).count p else 0 := by
      by_cases houtside : isOutsideBraces path p = true
      · by_cases htoken : token = p <;> simp [houtside, htoken, Nat.add_comm]
      · simp [houtside]
    rw [tokenFindings, List.count_append, List.count_append, List.count_append, hstray,
      hundeclared, ih, Nat.add_zero, Nat.add_assoc, hnew]
    cases earlier.find? fun e : String × String => Text.occursIn token.toList e.2.toList <;> simp

theorem isPlain_append {a b : String} (ha : IsPlain a.toList) (hb : IsPlain b.toList) :
    IsPlain (a ++ b).toList := by
  rw [String.toList_append]
  exact ⟨by simp [ha.1, hb.1], by simp [ha.2, hb.2]⟩

namespace PathFinding

theorem isPlain_insideEarlier {token edited first : String} (htoken : IsPlain token.toList)
    (hedited : IsPlain edited.toList) (hfirst : IsPlain first.toList) :
    IsPlain (insideEarlier token edited first).message.toList := by
  have hbegin : IsPlain "placeholder '".toList := by decide +kernel
  have hoccurs : IsPlain "' occurs in '".toList := by decide +kernel
  have hform : IsPlain "', the rewritten form of '".toList := by decide +kernel
  have hend : IsPlain "'".toList := by decide +kernel
  apply isPlain_append _ hend
  apply isPlain_append _ hfirst
  apply isPlain_append _ hform
  apply isPlain_append _ hedited
  exact isPlain_append (isPlain_append hbegin htoken) hoccurs

theorem isPlain_undeclared {token : String} (htoken : IsPlain token.toList) :
    IsPlain (undeclared token).message.toList := by
  have hbegin : IsPlain "placeholder '".toList := by decide +kernel
  have hend : IsPlain "' has no matching path parameter".toList := by decide +kernel
  exact isPlain_append (isPlain_append hbegin htoken) hend

/-- The message as a text, whose parts can be told apart. -/
theorem message_outsideBraces (token path : String) :
    (outsideBraces token path).message =
      "placeholder '" ++ token ++ "' also appears outside braces in '" ++ path ++ "'" := rfl

theorem openBrace_mem_outsideBraces (token : String) {path : String}
    (h : openBrace ∈ path.toList) :
    openBrace ∈ (outsideBraces token path).message.toList := by
  rw [message_outsideBraces, String.toList_append, String.toList_append]
  exact List.mem_append_left _ (List.mem_append_right _ h)

theorem outsideBraces_inj {token other path : String}
    (h : (outsideBraces token path).message = (outsideBraces other path).message) :
    token = other := by
  rw [message_outsideBraces, message_outsideBraces] at h
  have htexts := congrArg String.toList h
  simp only [String.toList_append, List.append_left_inj, List.append_right_inj] at htexts
  exact String.toList_injective htexts

end PathFinding

theorem PathTemplate.Template.openBrace_mem_path {t : Template} {p : String} (hp : p ∈ t.tokens) :
    openBrace ∈ t.path.toList := by
  obtain ⟨s, hs, -⟩ := t.exists_slot hp
  rw [Template.path, String.toList_ofList, Layout.render]
  apply List.mem_append_right
  exact List.mem_flatMap_of_mem hs List.mem_cons_self

/-- On a template with this token no other finding is told in these words. -/
theorem eq_outsideBraces_of_message {t : Template} {declared : List String} {p : String}
    (hp : p ∈ t.tokens) {f : PathFinding} (hf : f ∈ tokenFindings t.path declared [] t.tokens)
    (h : f.message = (PathFinding.outsideBraces p t.path).message) :
    f = .outsideBraces p t.path := by
  have hbrace := PathFinding.openBrace_mem_outsideBraces p (t.openBrace_mem_path hp)
  rw [← h] at hbrace
  rcases tokenFindings_cases hf with ⟨q, hq, e, he, rfl⟩ | ⟨q, -, rfl⟩ | ⟨q, hq, rfl⟩
  · rw [List.nil_append] at he
    obtain ⟨r, hr, rfl⟩ := List.mem_map.mp he
    have hfirst := t.token_plain hr
    have hplain := PathFinding.isPlain_insideEarlier (t.token_plain hq)
      (isPlain_pathCandidate hfirst) hfirst
    exact absurd hbrace hplain.1
  · rw [PathFinding.outsideBraces_inj h]
  · exact absurd hbrace (PathFinding.isPlain_undeclared (t.token_plain hq)).1

/-- The warnings about a token are those findings that say it. -/
theorem count_pathDiagnostics {o : Operation} {t : Template} (hpath : o.path = t.path) {p : String}
    (hp : p ∈ t.tokens) (location : String) :
    (pathDiagnostics o location).count ⟨.warning, lintPhase,
      (PathFinding.outsideBraces p t.path).message, some location⟩ =
        o.pathFindings.count (.outsideBraces p t.path) := by
  rw [pathDiagnostics, List.count, List.countP_map, List.count]
  apply List.countP_congr
  intro f hf
  rw [Operation.pathFindings_template hpath] at hf
  have htold : ((⟨f.severity, lintPhase, f.message, some location⟩ : Diagnostic) = ⟨.warning,
      lintPhase, (PathFinding.outsideBraces p t.path).message, some location⟩) ↔
        f = .outsideBraces p t.path := by
    constructor
    · intro hsame
      exact eq_outsideBraces_of_message hp hf (congrArg Diagnostic.message hsame)
    · rintro rfl
      rfl
  simpa using htold

/-- A path that is accepted is the path of a template, and for each of its tokens there is one
warning that it also appears outside of braces, if its text occurs between the slots or in the slot
of another token, and no such warning otherwise. -/
theorem pathDiagnostics_count_outsideBraces {o : Operation} {found : List Placeholder}
    (h : placeholders o.path = .ok found) (location : String) :
    (∃ t : Template, o.path = t.path) ∧
    ∀ t : Template, o.path = t.path → t.found = found ∧
      ∀ p ∈ PathTemplate.tokens found,
        (pathDiagnostics o location).count ⟨.warning, lintPhase,
          "placeholder '" ++ p ++ "' also appears outside braces in '" ++ o.path ++ "'",
          some location⟩ = if t.Strays p.toList then 1 else 0 := by
  refine ⟨(accepts_iff_template o.path).mp ⟨found, h⟩, fun t hpath => ?_⟩
  have hfound : t.found = found := by
    rw [hpath, t.placeholders_path] at h
    exact Except.ok.inj h
  refine ⟨hfound, fun p hp => ?_⟩
  rw [← hfound, t.tokens_found] at hp
  have hstrays := isOutsideBraces_path_iff t (t.token_plain hp) (t.token_ne_nil hp)
  rw [← PathFinding.message_outsideBraces, hpath]
  calc (pathDiagnostics o location).count ⟨.warning, lintPhase,
        (PathFinding.outsideBraces p t.path).message, some location⟩
      = o.pathFindings.count (.outsideBraces p t.path) := count_pathDiagnostics hpath hp location
    _ = if isOutsideBraces t.path p then t.tokens.count p else 0 := by
        rw [Operation.pathFindings_template hpath, count_outsideBraces]
    _ = if t.Strays p.toList then 1 else 0 := by
        rw [List.count_eq_one_of_mem t.nodup_tokens hp]
        exact if_congr hstrays rfl rfl

/-- The text of one token occurs in that of another, where it overlaps itself, and stands in its own
braces twice. -/
theorem pathDiagnostics_count_outsideBraces_twins :
    let o : Operation := { operationId := "getTwins", path := "/{aa}/{aaa}/{aa}" }
    let warning (token : String) : Diagnostic := ⟨.warning, lintPhase,
      "placeholder '" ++ token ++ "' also appears outside braces in '" ++ o.path ++ "'",
      some "twins"⟩
    placeholders o.path = .ok [⟨"aa", 1⟩, ⟨"aaa", 6⟩, ⟨"aa", 12⟩] ∧
    (pathDiagnostics o "twins").count (warning "aa") = 1 ∧
    (pathDiagnostics o "twins").count (warning "aaa") = 0 := by
  intro o warning
  have hfound : placeholders o.path = .ok [⟨"aa", 1⟩, ⟨"aaa", 6⟩, ⟨"aa", 12⟩] := by
    decide +kernel
  let t : Template := {
    lead := ['/']
    slots := [⟨['a', 'a'], ['/']⟩, ⟨['a', 'a', 'a'], ['/']⟩, ⟨['a', 'a'], []⟩] }
  have hpath : o.path = t.path := by decide +kernel
  obtain ⟨-, hcount⟩ := (pathDiagnostics_count_outsideBraces hfound "twins").2 t hpath
  exact ⟨hfound, (hcount "aa" (by decide +kernel)).trans (by decide +kernel),
    (hcount "aaa" (by decide +kernel)).trans (by decide +kernel)⟩

end AbapNaming
