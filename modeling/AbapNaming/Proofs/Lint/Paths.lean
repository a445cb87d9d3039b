import AbapNaming.Proofs.PathTemplate.Matches

/-! # What the findings on a path tell

The count of matches finds a token outside of its own braces wherever its text occurs between
slots or in the slot of another token. No finding at all means besides that each token is
declared and occurs in no candidate of an earlier one.
-/

namespace AbapNaming

open PathTemplate

theorem isOutsideBraces_path_iff (t : Template) {token : String} (hplain : IsPlain token.toList)
    (hne : token.toList ≠ []) :
    isOutsideBraces t.path token = true ↔ t.Strays token.toList := by
  have hall : Text.count token.toList t.path.toList = Text.count token.toList t.lead +
      ((t.slots.map (Slot.strayCount token.toList)).sum +
        (t.slots.map fun s => if s.inside = token.toList then 1 else 0).sum) := by
    rw [Template.path, String.toList_ofList, Layout.render, count_slots hne hplain,
      ← List.sum_map_add]
    simp only [Slot.count_eq hne]
  have hbraced : Text.count (braced token.toList) t.path.toList =
      (t.slots.map fun s => if s.inside = token.toList then 1 else 0).sum := by
    rw [Template.path, String.toList_ofList, Layout.render, braced, List.cons_append,
      count_open_append t.lead_plain.1]
    exact count_braced_slots t.inside_plain t.after_plain hplain
  have hzero : Text.count token.toList t.lead +
      (t.slots.map (Slot.strayCount token.toList)).sum = 0 ↔ ¬ t.Strays token.toList := by
    rw [Nat.add_eq_zero_iff, Text.count_eq_zero_iff hne, List.sum_eq_zero_iff_forall_eq_nat]
    simp only [List.forall_mem_map, Slot.strayCount_eq_zero_iff hne, Layout.Strays, not_or,
      not_exists, not_and]
  rw [isOutsideBraces, decide_eq_true_eq, hall, hbraced, ← not_iff_not, ← hzero]
  omega

theorem find?_candidate_eq_none_iff (earlier : KeyedList String) (token : String) :
    (earlier.find? fun e => Text.occursIn token.toList e.2.toList) = none ↔
      ∀ e ∈ earlier, ¬ token.toList <:+: e.2.toList := by
  simp [List.find?_eq_none, Text.occursIn_iff]

theorem tokenFindings_cons_eq_nil_iff (path : String) (declared : List String)
    (earlier : KeyedList String) (token : String) (tokens : List String) :
    tokenFindings path declared earlier (token :: tokens) = [] ↔
      ((∀ e ∈ earlier, ¬ token.toList <:+: e.2.toList) ∧ isOutsideBraces path token = false ∧
        token ∈ declared) ∧
      tokenFindings path declared (earlier ++ [(token, pathCandidate token)]) tokens = [] := by
  rw [← find?_candidate_eq_none_iff, tokenFindings, List.append_eq_nil_iff]
  refine and_congr_left fun _ => ?_
  cases earlier.find? fun e => Text.occursIn token.toList e.2.toList with
  | some e => simp
  | none =>
    cases isOutsideBraces path token with
    | true => simp
    | false => simp

/-- Tokens without findings: none is outside its braces, all are declared, and none occurs in
the candidate of an earlier one. -/
theorem tokenFindings_eq_nil_iff (path : String) (declared : List String)
    (earlier : KeyedList String) (tokens : List String) :
    tokenFindings path declared earlier tokens = [] ↔
      (∀ q ∈ tokens, (∀ e ∈ earlier, ¬ q.toList <:+: e.2.toList) ∧
        isOutsideBraces path q = false ∧ q ∈ declared) ∧
      tokens.Pairwise fun p q => ¬ q.toList <:+: (pathCandidate p).toList := by
  induction tokens generalizing earlier with
  | nil => simp [tokenFindings]
  | cons p tokens ih =>
    have hlater (q : String) : (∀ e ∈ earlier ++ [(p, pathCandidate p)], ¬ q.toList <:+: e.2.toList) ↔
        (∀ e ∈ earlier, ¬ q.toList <:+: e.2.toList) ∧ ¬ q.toList <:+: (pathCandidate p).toList := by
      rw [List.forall_mem_append, List.forall_mem_singleton]
    simp only [tokenFindings_cons_eq_nil_iff, ih, hlater, List.forall_mem_cons, List.pairwise_cons,
      forall_and]
    tauto

theorem Operation.pathFindings_template {o : Operation} {t : Template} (hpath : o.path = t.path) :
    o.pathFindings = tokenFindings t.path o.pathParameters [] t.tokens := by
  rw [pathFindings, hpath, t.placeholders_path]
  simp only [t.tokens_found]

/-- An operation whose path is this template and has no findings. -/
theorem Operation.pathFindings_eq_nil_iff {o : Operation} {t : Template} (hpath : o.path = t.path) :
    o.pathFindings = [] ↔
      (∀ q ∈ t.tokens, ¬ t.Strays q.toList ∧ q ∈ o.pathParameters) ∧
      t.tokens.Pairwise fun p q => ¬ q.toList <:+: (pathCandidate p).toList := by
  rw [pathFindings_template hpath]
  simp only [tokenFindings_eq_nil_iff, List.not_mem_nil, false_imp_iff, implies_true, true_and]
  refine and_congr_left fun _ => forall₂_congr fun q hq => and_congr_left fun _ => ?_
  rw [← isOutsideBraces_path_iff t (t.token_plain hq) (t.token_ne_nil hq), Bool.not_eq_true]

end AbapNaming
