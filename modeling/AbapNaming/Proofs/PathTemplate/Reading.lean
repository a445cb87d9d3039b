import AbapNaming.Proofs.Lint.Errors
import AbapNaming.Proofs.PathTemplate.Filling

/-! # Templates read back

A path is accepted exactly if it is the path of a template, which can be built up from the end of
the path: what stands before it is one more character of its lead or closes a slot in front of it.
A template that was filled and spaced is one again, and its slots read as they were filled.
-/

namespace AbapNaming.PathTemplate

namespace Template

def empty : Template where
  lead := []
  slots := []

def cons (c : Char) (hopen : c ≠ openBrace) (hclose : c ≠ closeBrace) (t : Template) : Template where
  lead := c :: t.lead
  slots := t.slots
  lead_plain := isPlain_cons.mpr ⟨hopen, hclose, t.lead_plain⟩
  inside_plain := t.inside_plain
  inside_ne_nil := t.inside_ne_nil
  after_plain := t.after_plain

/-- A slot in front. What led the others stands behind it. -/
def slot (inside : List Char) (hplain : IsPlain inside) (hne : inside ≠ []) (t : Template) :
    Template where
  lead := []
  slots := ⟨inside, t.lead⟩ :: t.slots
  inside_plain := List.forall_mem_cons.mpr ⟨hplain, t.inside_plain⟩
  inside_ne_nil := List.forall_mem_cons.mpr ⟨hne, t.inside_ne_nil⟩
  after_plain := List.forall_mem_cons.mpr ⟨t.lead_plain, t.after_plain⟩

theorem render_cons {c : Char} (hopen : c ≠ openBrace) (hclose : c ≠ closeBrace) (t : Template) :
    (t.cons c hopen hclose).render = c :: t.render := rfl

theorem render_slot {inside : List Char} (hplain : IsPlain inside) (hne : inside ≠ [])
    (t : Template) :
    (t.slot inside hplain hne).render = openBrace :: (inside ++ closeBrace :: t.render) := by
  simp [slot, Layout.render, Slot.render]

end Template

/-- The text was read outside of braces or, if one is open, closes it somewhere. -/
def Reads (cs : List Char) : Option Opening → Prop
  | none => ∃ t : Template, cs = t.render
  | some o => ∃ (inside : List Char) (t : Template), IsPlain inside ∧
      o.since.reverse ++ inside ≠ [] ∧ cs = inside ++ closeBrace :: t.render

theorem reads_of_scanFrom {cs : List Char} {pos : Nat} {opening : Option Opening}
    {found : List Placeholder} (h : scanFrom pos opening cs = .ok found) : Reads cs opening := by
  -- Both states at once: a brace takes the scan from one to the other.
  induction cs generalizing pos opening found with
  | nil =>
    cases opening with
    | none => exact ⟨.empty, rfl⟩
    | some o => cases h
  | cons c cs ih =>
    cases opening with
    | none =>
      rw [scanFrom] at h
      split_ifs at h with hopen hclose
      · obtain ⟨inside, t, hplain, hne, rfl⟩ := ih h
        have hinside : inside ≠ [] := by simpa using hne
        refine ⟨t.slot inside hplain hinside, ?_⟩
        rw [t.render_slot, hopen]
      · obtain ⟨t, rfl⟩ := ih h
        exact ⟨t.cons c hopen hclose, (t.render_cons hopen hclose).symm⟩
    | some o =>
      rw [scanFrom] at h
      split_ifs at h with hopen hclose hempty
      · cases hrest : scanFrom (pos + c.utf8Size) none cs with
        | error e =>
          rw [hrest] at h
          cases h
        | ok rest =>
          obtain ⟨t, rfl⟩ := ih hrest
          refine ⟨[], t, by decide, ?_, ?_⟩
          · simpa using hempty
          · rw [hclose, List.nil_append]
      · obtain ⟨inside, t, hplain, hne, rfl⟩ := ih h
        refine ⟨c :: inside, t, isPlain_cons.mpr ⟨hopen, hclose, hplain⟩, ?_, rfl⟩
        simp

theorem accepts_iff_template (path : String) : Accepts path ↔ ∃ t : Template, path = t.path := by
  constructor
  · rintro ⟨found, hfound⟩
    rw [placeholders] at hfound
    cases hscan : scanFrom 0 none path.toList with
    | error e =>
      rw [hscan] at hfound
      cases hfound
    | ok found' =>
      obtain ⟨t, ht⟩ := reads_of_scanFrom hscan
      refine ⟨t, ?_⟩
      rw [Template.path, ← ht, String.ofList_toList]
  · rintro ⟨t, rfl⟩
    exact ⟨_, t.placeholders_path⟩

def spaced (text : String) : String := " " ++ text ++ " "

theorem toList_spaced (text : String) : (spaced text).toList = ' ' :: (text.toList ++ [' ']) := by
  simp [spaced, String.toList_append]

theorem spaced_inj {a b : String} : spaced a = spaced b ↔ a = b := by
  rw [← String.toList_inj, toList_spaced, toList_spaced, List.cons.injEq,
    List.append_left_inj, String.toList_inj, and_iff_right rfl]

theorem isPlain_spaced {text : String} (h : IsPlain text.toList) :
    IsPlain (spaced text).toList := by
  rw [toList_spaced]
  exact isPlain_cons.mpr ⟨by decide, by decide, by simpa [IsPlain, openBrace, closeBrace] using h⟩

namespace Layout

theorem renderSpaced_eq (l : Layout) : l.renderSpaced = (l.fill spaced).render := by
  simp only [render, fill, List.flatMap_map, Slot.render, toList_spaced, Slot.token,
    String.toList_ofList, List.cons_append, List.append_assoc, List.nil_append]
  rfl

/-- What a layout becomes with a space inside each brace, if none of its texts has one. -/
def spacedTemplate (l : Layout) (h : l.Plain) : Template where
  toLayout := l.fill spaced
  lead_plain := h.1
  inside_plain := List.forall_mem_map.mpr fun s hs =>
    isPlain_spaced (by simpa [Slot.token] using (h.2 s hs).1)
  inside_ne_nil := List.forall_mem_map.mpr fun s _ => by simp [toList_spaced]
  after_plain := List.forall_mem_map.mpr fun s hs => (h.2 s hs).2

theorem placeholders_renderSpaced {l : Layout} (h : l.Plain) :
    ∃ found, placeholders (String.ofList l.renderSpaced) = .ok found ∧
      found.map Placeholder.text = l.slots.map fun s => spaced s.token := by
  have hpath : String.ofList l.renderSpaced = (l.spacedTemplate h).path := by
    rw [renderSpaced_eq]
    rfl
  refine ⟨_, hpath ▸ (l.spacedTemplate h).placeholders_path, ?_⟩
  rw [map_text_found]
  simp [spacedTemplate, fill, Slot.token]

end Layout

/-- A template that was filled and spaced has the placeholders that it was filled with, each
between its spaces. -/
theorem Template.placeholders_filled (t : Template) {f : String → String}
    (hplain : ∀ q ∈ t.tokens, IsPlain (f q).toList) :
    ∃ found, placeholders (String.ofList (t.fill f).renderSpaced) = .ok found ∧
      found.map Placeholder.text = (t.slots.map Slot.token).map fun q => spaced (f q) := by
  obtain ⟨found, hfound, htexts⟩ := Layout.placeholders_renderSpaced (t.plain_fill hplain)
  refine ⟨found, hfound, htexts.trans ?_⟩
  simp [Layout.fill, Slot.token]

end AbapNaming.PathTemplate
