import AbapNaming.Proofs.Naming.Roles
import AbapNaming.Proofs.PathTemplate.Reading

/-! # Braces stay where they are

Neither a token nor what it becomes has a brace. So a replacement, however much of the path it
changes, leaves the braces in their order, and no text between two of them gets one. What comes out
is a template of as many slots, each with a space at either end.
-/

namespace AbapNaming

open PathTemplate

namespace PathTemplate

def braces (cs : List Char) : List Char :=
  cs.filter fun c => decide (c = openBrace ∨ c = closeBrace)

theorem braces_append (xs ys : List Char) : braces (xs ++ ys) = braces xs ++ braces ys :=
  List.filter_append xs ys

theorem braces_eq_nil_iff {cs : List Char} : braces cs = [] ↔ IsPlain cs := by
  simp only [braces, List.filter_eq_nil_iff, decide_eq_true_eq, not_or, IsPlain]
  constructor
  · intro h
    exact ⟨fun hopen => (h _ hopen).1 rfl, fun hclose => (h _ hclose).2 rfl⟩
  · rintro ⟨hopen, hclose⟩ c hc
    exact ⟨fun h => hopen (h ▸ hc), fun h => hclose (h ▸ hc)⟩

theorem braces_padBraces (cs : List Char) : braces (padBraces cs) = braces cs := by
  induction cs with
  | nil => rfl
  | cons c cs ih =>
    rw [padBraces_cons, braces_append, ih]
    split_ifs with hopen hclose
    · simp [braces, hopen, openBrace, closeBrace]
    · simp [braces, hclose, openBrace, closeBrace]
    · simp [braces, hopen, hclose]

/-- A match without braces gives way to a text without braces. -/
theorem braces_replace {needle new : List Char} (hneedle : needle ≠ []) (hplain : IsPlain needle)
    (hnew : IsPlain new) (cs : List Char) : braces (Text.replace needle new cs) = braces cs := by
  induction cs using Text.matchInduction hneedle with
  | nil => rfl
  | here rest ih =>
    rw [Text.replace_match hneedle, braces_append, braces_append, braces_eq_nil_iff.mpr hnew,
      braces_eq_nil_iff.mpr hplain, ih]
  | step c cs hc ih =>
    rw [Text.replace_step hc, ← List.singleton_append, braces_append, ih, ← braces_append,
      List.singleton_append]

section

variable {f : String → String} {tokens : List String}
  (hne : ∀ q ∈ tokens, q.toList ≠ []) (hplain : ∀ q ∈ tokens, IsPlain q.toList)
  (hnew : ∀ q ∈ tokens, IsPlain (f q).toList)

include hne hplain hnew

theorem braces_replaceEach (cs : List Char) : braces (replaceEach f tokens cs) = braces cs := by
  induction tokens generalizing cs with
  | nil => rfl
  | cons q tokens ih =>
    simp only [List.forall_mem_cons] at hne hplain hnew
    calc braces (replaceEach f (q :: tokens) cs)
        = braces (replaceEach f tokens (Text.replace q.toList (f q).toList cs)) := rfl
      _ = braces (Text.replace q.toList (f q).toList cs) := ih hne.2 hplain.2 hnew.2 _
      _ = braces cs := braces_replace hne.1 hplain.1 hnew.1 cs

theorem isPlain_replaceEach {cs : List Char} (h : IsPlain cs) :
    IsPlain (replaceEach f tokens cs) := by
  rw [← braces_eq_nil_iff, braces_replaceEach hne hplain hnew, braces_eq_nil_iff]
  exact h

end

theorem Template.plain_replaceEach (t : Template) {f : String → String}
    (hnew : ∀ q ∈ t.tokens, IsPlain (f q).toList) :
    (t.map (replaceEach f t.tokens)).Plain := by
  have hkeeps : ∀ {cs}, IsPlain cs → IsPlain (replaceEach f t.tokens cs) :=
    isPlain_replaceEach (fun q hq => t.token_ne_nil hq) (fun q hq => t.token_plain hq) hnew
  refine ⟨hkeeps t.lead_plain, ?_⟩
  intro _ hslot
  obtain ⟨s, hs, rfl⟩ := List.mem_map.mp hslot
  exact ⟨hkeeps (t.inside_plain s hs), hkeeps (t.after_plain s hs)⟩

/-- Tokens are replaced slot by slot, and then the braces are set apart. -/
theorem Template.padBraces_replaceEach (t : Template) {f : String → String}
    (hnew : ∀ q ∈ t.tokens, IsPlain (f q).toList) :
    padBraces (replaceEach f t.tokens t.render) =
      (t.map (replaceEach f t.tokens)).renderSpaced := by
  rw [replaceEach_render (fun q hq => t.token_plain hq) (fun q hq => t.token_ne_nil hq),
    padBraces_render, Layout.map_padBraces_of_plain (t.plain_replaceEach hnew)]

end PathTemplate

namespace Naming

/-- A rendered path has as many placeholders as the path, each with a space at either end, and the
same braces in the same order. -/
theorem renderPath_keeps_braces (n : Naming) (hreserved : n.reserved.replacements = [])
    {path : String} {found : List Placeholder} (h : placeholders path = .ok found) :
    ∃ rendered n' found', n.renderPath path = .ok (rendered, n') ∧
      placeholders rendered = .ok found' ∧ found'.length = found.length ∧
      (∀ x ∈ found', ∃ text, x.text = spaced text) ∧
      braces rendered.toList = braces path.toList := by
  obtain ⟨t, rfl⟩ := (accepts_iff_template path).mp ⟨found, h⟩
  let identifier := (n.afterTokens t.tokens).pathIdentifier
  have hnew : ∀ q ∈ t.tokens, IsPlain (identifier q).toList :=
    fun q hq => isPlain_afterTokens hreserved t hq
  have hplain := t.plain_replaceEach hnew
  obtain ⟨found', hfound', htexts⟩ := Layout.placeholders_renderSpaced hplain
  have hrendered := n.renderPath_template t
  rw [t.padBraces_replaceEach hnew] at hrendered
  refine ⟨_, _, found', hrendered, hfound', ?_, ?_, ?_⟩
  · have hcount := congrArg List.length htexts
    obtain rfl := Except.ok.inj (t.placeholders_path.symm.trans h)
    simpa [t.length_found, Layout.map] using hcount
  · intro x hx
    have hx' : x.text ∈ found'.map Placeholder.text := List.mem_map_of_mem hx
    rw [htexts] at hx'
    obtain ⟨s, -, hs⟩ := List.mem_map.mp hx'
    exact ⟨s.token, hs.symm⟩
  · rw [String.toList_ofList, ← t.padBraces_replaceEach hnew, braces_padBraces,
      braces_replaceEach (fun q hq => t.token_ne_nil hq) (fun q hq => t.token_plain hq) hnew,
      Template.path, String.toList_ofList]

def fiveOfEight : Naming := start { maxLength := 8, trimLength := 5 } ⟨[], []⟩

/-- The first token occurs between the slots and in the second one, the last one in what the second
one becomes. -/
def crossedPath : String := "/id/\x7bid\x7d/\x7bidea\x7d/\x7b000\x7d"

theorem renderPath_crossedPath :
    fiveOfEight.reserved.replacements = [] ∧
    placeholders crossedPath = .ok [⟨"id", 4⟩, ⟨"idea", 9⟩, ⟨"000", 16⟩] ∧
    ∃ rendered n' found', fiveOfEight.renderPath crossedPath = .ok (rendered, n') ∧
      rendered = "/iv_p_id/\x7b iv_p_id \x7d/\x7b iv_p_iv_p_iv_p_000 \x7d/\x7b iv_p_000 \x7d" ∧
      placeholders rendered = .ok found' ∧ found'.length = 3 ∧
      (∀ x ∈ found', ∃ text, x.text = spaced text) ∧
      braces rendered.toList = braces crossedPath.toList := by
  have hfound : placeholders crossedPath = .ok [⟨"id", 4⟩, ⟨"idea", 9⟩, ⟨"000", 16⟩] := by
    decide +kernel
  have hvalue : (fiveOfEight.renderPath crossedPath).map Prod.fst =
      .ok "/iv_p_id/\x7b iv_p_id \x7d/\x7b iv_p_iv_p_iv_p_000 \x7d/\x7b iv_p_000 \x7d" := by
    decide +kernel
  obtain ⟨rendered, n', found', hrendered, hkept⟩ :=
    fiveOfEight.renderPath_keeps_braces rfl hfound
  rw [hrendered] at hvalue
  exact ⟨rfl, hfound, rendered, n', found', hrendered, Except.ok.inj hvalue, hkept⟩

end Naming

end AbapNaming
