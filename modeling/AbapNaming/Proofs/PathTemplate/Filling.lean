import AbapNaming.Proofs.PathTemplate.Matches

/-! # Replacement one after another

Each token in turn is replaced wherever its text occurs. If no token strays out of its slots and
none reaches what an earlier one was replaced by, all of this comes to the same as putting each
replacement into its slots at once.
-/

namespace AbapNaming.PathTemplate

def replaceEach (f : String → String) (tokens : List String) (cs : List Char) : List Char :=
  tokens.foldl (fun cs token => Text.replace token.toList (f token).toList cs) cs

/-- No replacement is changed by a later one. -/
def Unaltered (f : String → String) (tokens : List String) : Prop :=
  tokens.Pairwise fun p q => Text.replace q.toList (f q).toList (f p).toList = (f p).toList

section

variable {f : String → String} {tokens : List String}

theorem replaceEach_render (hplain : ∀ q ∈ tokens, IsPlain q.toList)
    (hne : ∀ q ∈ tokens, q.toList ≠ []) (l : Layout) :
    replaceEach f tokens l.render = (l.map (replaceEach f tokens)).render := by
  induction tokens generalizing l with
  | nil => exact congrArg Layout.render l.map_id.symm
  | cons q tokens ih =>
    simp only [List.forall_mem_cons] at hplain hne
    calc replaceEach f (q :: tokens) l.render
        = replaceEach f tokens (Text.replace q.toList (f q).toList l.render) := rfl
      _ = replaceEach f tokens (l.map (Text.replace q.toList (f q).toList)).render := by
        rw [replace_render hne.1 hplain.1]
      _ = _ := by
        rw [ih hplain.2 hne.2, Layout.map_map]
        rfl

theorem replaceEach_of_no_match (hne : ∀ q ∈ tokens, q.toList ≠ []) {cs : List Char}
    (h : ∀ q ∈ tokens, ¬ q.toList <:+: cs) : replaceEach f tokens cs = cs := by
  induction tokens with
  | nil => rfl
  | cons q tokens ih =>
    simp only [List.forall_mem_cons] at hne h
    rw [replaceEach, List.foldl_cons, Text.replace_of_no_match hne.1 _ h.1]
    exact ih hne.2 h.2

theorem replaceEach_of_unaltered {cs : List Char}
    (h : ∀ q ∈ tokens, Text.replace q.toList (f q).toList cs = cs) :
    replaceEach f tokens cs = cs := by
  induction tokens with
  | nil => rfl
  | cons q tokens ih =>
    rw [List.forall_mem_cons] at h
    rw [replaceEach, List.foldl_cons, h.1]
    exact ih h.2

/-- A token's text waits for its turn and then stays what it was replaced by. -/
theorem replaceEach_token (hne : ∀ q ∈ tokens, q.toList ≠ []) (hun : Unaltered f tokens)
    {p : String} (hp : p ∈ tokens) (hapart : ∀ q ∈ tokens, q ≠ p → ¬ q.toList <:+: p.toList) :
    replaceEach f tokens p.toList = (f p).toList := by
  induction tokens with
  | nil => exact absurd hp List.not_mem_nil
  | cons q tokens ih =>
    obtain ⟨hlater, hun⟩ := List.pairwise_cons.mp hun
    rw [List.forall_mem_cons] at hne hapart
    rw [replaceEach, List.foldl_cons]
    by_cases h : q = p
    · subst h
      rw [Text.replace_self_match hne.1]
      exact replaceEach_of_unaltered hlater
    · rw [Text.replace_of_no_match hne.1 _ (hapart.1 h)]
      exact ih hne.2 hun ((List.mem_cons.mp hp).resolve_left (Ne.symm h)) hapart.2

end

/-- Replacements are left alone by later ones exactly if those do not reach them, or put back what
they find. -/
theorem Template.unaltered_iff (t : Template) (f : String → String) :
    Unaltered f t.tokens ↔
      t.tokens.Pairwise fun p q => q.toList <:+: (f p).toList → f q = q := by
  refine List.Pairwise.iff_of_mem fun {p q} _ hq => ?_
  rw [Text.replace_eq_self_iff (t.token_ne_nil hq), String.toList_inj]

/-- Without strays and alterations every replacement ends up in its slots, and nowhere else. -/
theorem Template.replaceEach_eq_fill (t : Template) {f : String → String}
    (hstray : ∀ q ∈ t.tokens, ¬ t.Strays q.toList) (hun : Unaltered f t.tokens) :
    replaceEach f t.tokens t.render = (t.fill f).render := by
  have hne : ∀ q ∈ t.tokens, q.toList ≠ [] := fun q hq => t.token_ne_nil hq
  have hlead : replaceEach f t.tokens t.lead = t.lead :=
    replaceEach_of_no_match hne fun q hq hoccurs => hstray q hq (.inl hoccurs)
  have hslot : ∀ s ∈ t.slots, (⟨replaceEach f t.tokens s.inside,
      replaceEach f t.tokens s.after⟩ : Slot) = ⟨(f s.token).toList, s.after⟩ := by
    intro s hs
    have hafter : replaceEach f t.tokens s.after = s.after :=
      replaceEach_of_no_match hne fun q hq hoccurs => hstray q hq (.inr ⟨s, hs, .inl hoccurs⟩)
    have hinside : s.inside = s.token.toList := by rw [Slot.token, String.toList_ofList]
    have htoken : replaceEach f t.tokens s.token.toList = (f s.token).toList := by
      refine replaceEach_token hne hun (t.token_mem hs) fun q hq hqs hoccurs => ?_
      refine hstray q hq (.inr ⟨s, hs, .inr ⟨?_, hinside ▸ hoccurs⟩⟩)
      rw [hinside]
      exact fun h => hqs (String.toList_inj.mp h).symm
    rw [hafter, hinside, htoken]
  rw [replaceEach_render (fun q hq => t.token_plain hq) hne, Layout.map, hlead, Layout.fill,
    List.map_congr_left hslot]

theorem padBraces_cons (c : Char) (cs : List Char) :
    padBraces (c :: cs) = (if c = openBrace then [openBrace, ' ']
      else if c = closeBrace then [' ', closeBrace] else [c]) ++ padBraces cs :=
  List.flatMap_cons

theorem padBraces_append (xs ys : List Char) :
    padBraces (xs ++ ys) = padBraces xs ++ padBraces ys :=
  List.flatMap_append

theorem padBraces_plain {cs : List Char} (h : IsPlain cs) : padBraces cs = cs := by
  induction cs with
  | nil => rfl
  | cons c cs ih =>
    obtain ⟨hopen, hclose, hplain⟩ := isPlain_cons.mp h
    rw [padBraces_cons, if_neg hopen, if_neg hclose, ih hplain, List.singleton_append]

theorem length_le_padBraces (cs : List Char) : cs.length ≤ (padBraces cs).length := by
  induction cs with
  | nil => exact Nat.le_refl 0
  | cons c cs ih =>
    rw [padBraces_cons, List.length_append, List.length_cons]
    split_ifs <;> simp only [List.length_cons, List.length_nil] <;> omega

/-- A text that does not grow has no braces. -/
theorem isPlain_of_padBraces_le {cs : List Char} (h : (padBraces cs).length ≤ cs.length) :
    IsPlain cs := by
  induction cs with
  | nil => decide
  | cons c cs ih =>
    have hrest := length_le_padBraces cs
    rw [padBraces_cons, List.length_append, List.length_cons] at h
    split_ifs at h with hopen hclose <;> simp only [List.length_cons, List.length_nil] at h
    · omega
    · omega
    · exact isPlain_cons.mpr ⟨hopen, hclose, ih (by omega)⟩

theorem padBraces_slot (s : Slot) : padBraces s.render =
    Slot.renderSpaced ⟨padBraces s.inside, padBraces s.after⟩ := by
  rw [Slot.render, padBraces_cons, padBraces_append, padBraces_cons, if_pos rfl, if_neg (by decide),
    if_pos rfl]
  rfl

/-- The braces of a layout get their spaces, and so do those in its texts. -/
theorem padBraces_render (l : Layout) : padBraces l.render = (l.map padBraces).renderSpaced := by
  have hslots : padBraces (l.slots.flatMap Slot.render) =
      (l.map padBraces).slots.flatMap Slot.renderSpaced := by
    simp only [Layout.map]
    induction l.slots with
    | nil => rfl
    | cons s slots ih =>
      rw [List.flatMap_cons, padBraces_append, padBraces_slot, ih, List.map_cons,
        List.flatMap_cons]
  rw [Layout.render, padBraces_append, hslots]
  rfl

namespace Layout

def Plain (l : Layout) : Prop :=
  IsPlain l.lead ∧ ∀ s ∈ l.slots, IsPlain s.inside ∧ IsPlain s.after

theorem map_padBraces_of_plain {l : Layout} (h : l.Plain) : l.map padBraces = l := by
  have hslots : ∀ s ∈ l.slots, (⟨padBraces s.inside, padBraces s.after⟩ : Slot) = s := by
    intro s hs
    rw [padBraces_plain (h.2 s hs).1, padBraces_plain (h.2 s hs).2]
  rw [map, padBraces_plain h.1, List.map_congr_left hslots, List.map_id']

theorem length_renderSpaced (l : Layout) :
    l.renderSpaced.length =
      l.lead.length + (l.slots.map fun s => s.inside.length + s.after.length + 4).sum := by
  have hslots : (l.slots.flatMap Slot.renderSpaced).length =
      (l.slots.map fun s => s.inside.length + s.after.length + 4).sum := by
    rw [List.length_flatMap]
    congr 1
    refine List.map_congr_left fun s _ => ?_
    simp only [Slot.renderSpaced, List.length_cons, List.length_append]
    omega
  rw [renderSpaced, List.length_append, hslots]

/-- If the spaces inside the slots are all that comes, no text has a brace. -/
theorem plain_of_padBraces_eq {l : Layout} (h : (l.map padBraces).renderSpaced = l.renderSpaced) :
    l.Plain := by
  have hlength := congrArg List.length h
  rw [length_renderSpaced, length_renderSpaced] at hlength
  simp only [map, List.map_map, Function.comp_def] at hlength
  have hlead := length_le_padBraces l.lead
  have hgrow : ∀ s ∈ l.slots, s.inside.length + s.after.length + 4 ≤
      (padBraces s.inside).length + (padBraces s.after).length + 4 := by
    intro s _
    have hinside := length_le_padBraces s.inside
    have hafter := length_le_padBraces s.after
    omega
  have hsum := List.sum_le_sum hgrow
  refine ⟨isPlain_of_padBraces_le (by omega), fun s hs => ?_⟩
  have hsame : (padBraces s.inside).length + (padBraces s.after).length ≤
      s.inside.length + s.after.length := by
    by_contra hmore
    have hstrict := List.sum_lt_sum _ _ hgrow ⟨s, hs, by omega⟩
    omega
  have hinside := length_le_padBraces s.inside
  have hafter := length_le_padBraces s.after
  exact ⟨isPlain_of_padBraces_le (by omega), isPlain_of_padBraces_le (by omega)⟩

end Layout

theorem Template.plain_fill (t : Template) {f : String → String}
    (h : ∀ p ∈ t.tokens, IsPlain (f p).toList) : (t.fill f).Plain := by
  refine ⟨t.lead_plain, ?_⟩
  rintro _ hslot
  obtain ⟨s, hs, rfl⟩ := List.mem_map.mp hslot
  exact ⟨h _ (t.token_mem hs), t.after_plain s hs⟩

/-- What is filled in has no braces exactly if rendering sets apart those of the slots alone. -/
theorem Template.fill_padded_iff (t : Template) (f : String → String) :
    padBraces (t.fill f).render = (t.fill f).renderSpaced ↔
      ∀ p ∈ t.tokens, IsPlain (f p).toList := by
  rw [padBraces_render]
  constructor
  · intro h p hp
    obtain ⟨s, hs, rfl⟩ := t.exists_slot hp
    exact ((Layout.plain_of_padBraces_eq h).2 _ (List.mem_map_of_mem hs)).1
  · intro h
    rw [Layout.map_padBraces_of_plain (t.plain_fill h)]

end AbapNaming.PathTemplate
