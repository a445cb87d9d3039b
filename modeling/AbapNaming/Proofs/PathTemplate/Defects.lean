import AbapNaming.Proofs.Naming.WellFormed
import AbapNaming.Proofs.PathTemplate.Reading

/-! # Where a path goes wrong

A text that begins some template can still become one. The scan goes on as long as that is so, and
stops at the character behind which no template is left: a brace that closes nothing, that opens in
a placeholder, or that closes an empty one. A text that could have become a template to its end has
a brace that was never closed, or is one.
-/

namespace AbapNaming.PathTemplate

open Text

/-- Some template begins with the text. -/
def Extensible (cs : List Char) : Prop := ∃ t : Template, cs <+: t.render

/-- The last brace of the text is an opening one, with `outside` before it and `inside` behind. -/
structure LeftOpen (cs outside inside : List Char) : Prop where
  eq : cs = outside ++ openBrace :: inside
  plain : IsPlain inside

/-- `before` and then `c` is the shortest part of the text with which no template begins. -/
structure BreaksAt (cs before : List Char) (c : Char) : Prop where
  begins : before ++ [c] <+: cs
  broken : ¬ Extensible (before ++ [c])
  shorter : ∀ part, part <+: before → Extensible part

/-- What is wrong with the character behind `before`, and the position that is told: that of the
character, or that of the brace which it closes. -/
inductive Breach (before : List Char) : Char → Nat → PathDefect → Prop
  | unmatchedClose : (∀ outside inside, ¬ LeftOpen before outside inside) →
      Breach before closeBrace (utf8Length before) .unmatchedClose
  | nested {outside inside : List Char} : LeftOpen before outside inside →
      Breach before openBrace (utf8Length before) .nested
  | emptyPlaceholder {outside : List Char} : LeftOpen before outside [] →
      Breach before closeBrace (utf8Length outside) .emptyPlaceholder

/-- The first defect of a text that is no template, and its position. -/
inductive FirstDefect (cs : List Char) : Nat → PathDefect → Prop
  | breach {before : List Char} {c : Char} {offset : Nat} {defect : PathDefect} :
      BreaksAt cs before c → Breach before c offset defect → FirstDefect cs offset defect
  | unterminated {outside inside : List Char} :
      (∀ part, part <+: cs → Extensible part) → LeftOpen cs outside inside →
      FirstDefect cs (utf8Length outside) .unterminated

theorem Extensible.mono {cs part : List Char} (h : Extensible cs) (hpart : part <+: cs) :
    Extensible part := by
  obtain ⟨t, ht⟩ := h
  exact ⟨t, hpart.trans ht⟩

theorem notMem_of_isPlain {cs : List Char} {b : Char} (hb : b = openBrace ∨ b = closeBrace)
    (h : IsPlain cs) : b ∉ cs := by
  rcases hb with rfl | rfl
  · exact h.1
  · exact h.2

/-- The text tells which brace is its last one, and what stands on either side of it. -/
theorem last_brace_inj {xs xs' ys ys' : List Char} {b b' : Char}
    (hb : b = openBrace ∨ b = closeBrace) (hb' : b' = openBrace ∨ b' = closeBrace)
    (hys : IsPlain ys) (hys' : IsPlain ys') (h : xs ++ b :: ys = xs' ++ b' :: ys') :
    xs = xs' ∧ b = b' ∧ ys = ys' := by
  rcases List.append_eq_append_iff.mp h with ⟨between, rfl, heq⟩ | ⟨between, rfl, heq⟩
  · cases between with
    | nil => simpa using heq
    | cons x between =>
      obtain ⟨rfl, rfl⟩ := List.cons.inj heq
      exact absurd (by simp) (notMem_of_isPlain hb' hys)
  · cases between with
    | nil => simpa [eq_comm] using heq
    | cons x between =>
      obtain ⟨rfl, rfl⟩ := List.cons.inj heq
      exact absurd (by simp) (notMem_of_isPlain hb hys')

theorem LeftOpen.inj {cs outside outside' inside inside' : List Char}
    (h : LeftOpen cs outside inside) (h' : LeftOpen cs outside' inside') :
    outside = outside' ∧ inside = inside' := by
  obtain ⟨houtside, -, hinside⟩ :=
    last_brace_inj (.inl rfl) (.inl rfl) h.plain h'.plain (h.eq.symm.trans h'.eq)
  exact ⟨houtside, hinside⟩

theorem Template.not_leftOpen (t : Template) {outside inside : List Char} :
    ¬ LeftOpen t.render outside inside := by
  intro h
  rcases List.eq_nil_or_concat' t.slots with hslots | ⟨slots, s, hslots⟩
  · have hlead : t.lead = outside ++ openBrace :: inside := by
      simpa [Layout.render, hslots] using h.eq
    have hplain := t.lead_plain.1
    rw [hlead] at hplain
    exact hplain (by simp)
  · have hrender : t.render = (t.lead ++ slots.flatMap Slot.render ++ openBrace :: s.inside) ++
        closeBrace :: s.after := by
      simp [Layout.render, hslots, Slot.render]
    have hafter := t.after_plain s (by simp [hslots])
    have hlast := last_brace_inj (.inr rfl) (.inl rfl) hafter h.plain (hrender.symm.trans h.eq)
    exact absurd hlast.2.1 (by decide)

theorem Breach.inj {before : List Char} {c : Char} {offset offset' : Nat}
    {defect defect' : PathDefect} (h : Breach before c offset defect)
    (h' : Breach before c offset' defect') : offset = offset' ∧ defect = defect' := by
  cases h with
  | unmatchedClose hclosed =>
    cases h' with
    | unmatchedClose _ => exact ⟨rfl, rfl⟩
    | emptyPlaceholder hopen => exact absurd hopen (hclosed _ _)
  | nested hopen =>
    cases h' with
    | nested _ => exact ⟨rfl, rfl⟩
  | emptyPlaceholder hopen =>
    cases h' with
    | unmatchedClose hclosed => exact absurd hopen (hclosed _ _)
    | emptyPlaceholder hopen' =>
      obtain ⟨rfl, -⟩ := hopen.inj hopen'
      exact ⟨rfl, rfl⟩

theorem BreaksAt.inj {cs before before' : List Char} {c c' : Char} (h : BreaksAt cs before c)
    (h' : BreaksAt cs before' c') : before = before' ∧ c = c' := by
  rcases List.prefix_or_prefix_of_prefix h.begins h'.begins with hshort | hshort
  · rcases List.prefix_concat_iff.mp hshort with hsame | hinside
    · simpa using List.append_inj' hsame rfl
    · exact absurd (h'.shorter _ hinside) h.broken
  · rcases List.prefix_concat_iff.mp hshort with hsame | hinside
    · simpa [eq_comm] using List.append_inj' hsame rfl
    · exact absurd (h.shorter _ hinside) h'.broken

/-- A text has one first defect at most. -/
theorem FirstDefect.inj {cs : List Char} {offset offset' : Nat} {defect defect' : PathDefect}
    (h : FirstDefect cs offset defect) (h' : FirstDefect cs offset' defect') :
    offset = offset' ∧ defect = defect' := by
  cases h with
  | breach hbreaks hbreach =>
    cases h' with
    | breach hbreaks' hbreach' =>
      obtain ⟨rfl, rfl⟩ := hbreaks.inj hbreaks'
      exact hbreach.inj hbreach'
    | unterminated hparts _ => exact absurd (hparts _ hbreaks.begins) hbreaks.broken
  | unterminated hparts hopen =>
    cases h' with
    | breach hbreaks _ => exact absurd (hparts _ hbreaks.begins) hbreaks.broken
    | unterminated _ hopen' =>
      obtain ⟨rfl, -⟩ := hopen.inj hopen'
      exact ⟨rfl, rfl⟩

theorem Template.not_firstDefect (t : Template) {offset : Nat} {defect : PathDefect} :
    ¬ FirstDefect t.render offset defect := by
  rintro (⟨hbreaks, -⟩ | ⟨-, hopen⟩)
  · exact hbreaks.broken ⟨t, hbreaks.begins⟩
  · exact t.not_leftOpen hopen

/-- The text was read outside of braces, or it leaves this brace open. -/
def Leaves (before : List Char) : Option Opening → Prop
  | none => ∃ t : Template, before = t.render
  | some o => ∃ (t : Template) (inside : List Char), IsPlain inside ∧
      before = t.render ++ openBrace :: inside ∧ o = ⟨utf8Length t.render, inside.reverse⟩

theorem Leaves.leftOpen {before : List Char} {o : Opening} (h : Leaves before (some o)) :
    ∃ outside, LeftOpen before outside o.since.reverse ∧ o.offset = utf8Length outside := by
  obtain ⟨t, inside, hplain, rfl, rfl⟩ := h
  refine ⟨t.render, ⟨?_, ?_⟩, rfl⟩ <;> simp [hplain]

section

variable {before : List Char} {opening : Option Opening} (h : Leaves before opening)

include h

/-- The scan comes through what was read in this state, and has found something or other. -/
theorem Leaves.scanFrom_append : ∃ found, ∀ rest, scanFrom 0 none (before ++ rest) =
    (scanFrom (utf8Length before) opening rest).map (found ++ ·) := by
  cases opening with
  | none =>
    obtain ⟨t, rfl⟩ := h
    exact ⟨t.found, t.scanFrom_render⟩
  | some o =>
    obtain ⟨t, inside, hplain, rfl, rfl⟩ := h
    refine ⟨t.found, fun rest => ?_⟩
    rw [List.append_assoc, t.scanFrom_render, List.cons_append, scanFrom, if_pos rfl,
      scanFrom_inside hplain, List.append_nil, utf8Length_append, utf8Length, Nat.add_assoc]

theorem Leaves.scanFrom_eq_error_iff {e : Nat × PathDefect} {rest : List Char} :
    scanFrom 0 none (before ++ rest) = .error e ↔
      scanFrom (utf8Length before) opening rest = .error e := by
  obtain ⟨found, hfound⟩ := h.scanFrom_append
  rw [hfound]
  cases scanFrom (utf8Length before) opening rest <;> simp [Except.map]

/-- A text behind which the scan succeeds with the rest is read outside of braces to its end. -/
theorem Leaves.append_of_scanFrom {rest : List Char} {found : List Placeholder}
    (hrest : scanFrom (utf8Length before) opening rest = .ok found) :
    Leaves (before ++ rest) none := by
  obtain ⟨found', hfound'⟩ := h.scanFrom_append
  have hscan := hfound' rest
  rw [hrest] at hscan
  exact reads_of_scanFrom hscan

theorem Leaves.extensible : Extensible before := by
  cases opening with
  | none =>
    obtain ⟨t, rfl⟩ := h
    exact ⟨t, List.prefix_rfl⟩
  | some o =>
    have hclosed : scanFrom (utf8Length before) (some o) ['x', closeBrace] =
        .ok [⟨String.ofList (o.since.reverse ++ ['x']), o.offset⟩] := by
      simp [scanFrom, openBrace, closeBrace, Except.map]
    obtain ⟨t, ht⟩ := h.append_of_scanFrom hclosed
    exact ⟨t, ht ▸ List.prefix_append _ _⟩

/-- A character takes the scan on, or it is the one at which every text goes wrong. -/
theorem Leaves.step (c : Char) :
    (∃ opening', Leaves (before ++ [c]) opening') ∨
    ∃ offset defect, Breach before c offset defect ∧
      ∀ rest, scanFrom (utf8Length before) opening (c :: rest) = .error (offset, defect) := by
  cases opening with
  | none =>
    have ⟨t, ht⟩ := h
    subst ht
    by_cases hopen : c = openBrace
    · subst hopen
      exact .inl ⟨some ⟨utf8Length t.render, []⟩, t, [], by decide, rfl, rfl⟩
    by_cases hclose : c = closeBrace
    · subst hclose
      exact .inr ⟨_, _, .unmatchedClose fun _ _ => t.not_leftOpen, fun rest => by
        rw [scanFrom, if_neg (by decide), if_pos rfl]⟩
    · have hscan : scanFrom (utf8Length t.render) none [c] = .ok [] := by
        simp [scanFrom, hopen, hclose]
      exact .inl ⟨none, h.append_of_scanFrom hscan⟩
  | some o =>
    obtain ⟨outside, hleft, hoffset⟩ := h.leftOpen
    by_cases hopen : c = openBrace
    · subst hopen
      exact .inr ⟨_, _, .nested hleft, fun rest => by rw [scanFrom, if_pos rfl]⟩
    by_cases hclose : c = closeBrace
    · subst hclose
      cases hsince : o.since with
      | nil =>
        rw [hsince] at hleft
        exact .inr ⟨_, _, .emptyPlaceholder hleft, fun rest => by
          simp [scanFrom, hsince, hoffset, openBrace, closeBrace]⟩
      | cons x since =>
        have hscan : scanFrom (utf8Length before) (some o) [closeBrace] =
            .ok [⟨String.ofList o.since.reverse, o.offset⟩] := by
          simp [scanFrom, hsince, openBrace, closeBrace, Except.map]
        exact .inl ⟨none, h.append_of_scanFrom hscan⟩
    · obtain ⟨t, inside, hplain, rfl, rfl⟩ := h
      have hlonger : IsPlain (inside ++ [c]) := by
        simp [IsPlain, hplain.1, hplain.2, Ne.symm hopen, Ne.symm hclose]
      exact .inl ⟨some ⟨utf8Length t.render, (inside ++ [c]).reverse⟩, t, inside ++ [c], hlonger,
        by simp, rfl⟩

/-- Where the scan stops is the first defect of the whole text. -/
theorem Leaves.firstDefect_of_scanFrom {rest : List Char} {offset : Nat} {defect : PathDefect}
    (hscan : scanFrom 0 none (before ++ rest) = .error (offset, defect)) :
    FirstDefect (before ++ rest) offset defect := by
  induction rest generalizing before opening with
  | nil =>
    rw [h.scanFrom_eq_error_iff] at hscan
    cases opening with
    | none => cases hscan
    | some o =>
      obtain ⟨outside, hleft, hoffset⟩ := h.leftOpen
      rw [scanFrom, Except.error.injEq, Prod.mk.injEq] at hscan
      obtain ⟨rfl, rfl⟩ := hscan
      rw [List.append_nil, hoffset]
      exact .unterminated (fun part hpart => h.extensible.mono hpart) hleft
  | cons c rest ih =>
    rcases h.step c with ⟨opening', hon⟩ | ⟨offset', defect', hbreach, hstop⟩
    · rw [List.append_cons] at hscan ⊢
      exact ih hon hscan
    · have hsame := hscan.symm.trans (h.scanFrom_eq_error_iff.mpr (hstop rest))
      obtain ⟨rfl, rfl⟩ := Prod.mk.inj (Except.error.inj hsame)
      refine .breach ⟨?_, ?_, fun part hpart => h.extensible.mono hpart⟩ hbreach
      · exact (List.prefix_append_right_inj before).mpr ⟨rest, rfl⟩
      · rintro ⟨t, rest', ht⟩
        have hfound := t.scanFrom_render []
        rw [List.append_nil, ← ht, List.append_assoc, List.singleton_append,
          h.scanFrom_eq_error_iff.mpr (hstop rest')] at hfound
        cases hfound

end

theorem scanFrom_eq_error_iff (cs : List Char) (offset : Nat) (defect : PathDefect) :
    scanFrom 0 none cs = .error (offset, defect) ↔ FirstDefect cs offset defect := by
  have hstart : Leaves [] none := ⟨.empty, rfl⟩
  constructor
  · exact fun hscan => hstart.firstDefect_of_scanFrom hscan
  · intro h
    cases hscan : scanFrom 0 none cs with
    | ok found =>
      obtain ⟨t, rfl⟩ := reads_of_scanFrom hscan
      exact absurd h t.not_firstDefect
    | error e =>
      obtain ⟨rfl, rfl⟩ := h.inj (hstart.firstDefect_of_scanFrom hscan)
      rfl

theorem placeholders_eq_error_iff (path : String) (e : PathError) :
    placeholders path = .error e ↔
      e.path = path ∧ FirstDefect path.toList e.offset e.defect := by
  rw [← scanFrom_eq_error_iff, placeholders]
  cases scanFrom 0 none path.toList with
  | ok found => simp
  | error defect =>
    obtain ⟨path', offset', defect'⟩ := e
    simp only [Except.error.injEq, PathError.mk.injEq, Prod.ext_iff]
    tauto

theorem placeholders_eq_ok_iff (path : String) (found : List Placeholder) :
    placeholders path = .ok found ↔ ∃ t : Template, path = t.path ∧ found = t.found := by
  constructor
  · intro h
    obtain ⟨t, rfl⟩ := (accepts_iff_template path).mp ⟨found, h⟩
    exact ⟨t, rfl, Except.ok.inj (h.symm.trans t.placeholders_path)⟩
  · rintro ⟨t, rfl, rfl⟩
    exact t.placeholders_path

theorem renderPath_eq_error_iff (n : Naming) (path : String) (e : PathError) :
    n.renderPath path = .error e ↔ placeholders path = .error e := by
  rw [Naming.renderPath]
  cases placeholders path <;> simp

/-- A path is read as the template that it is, with its slots and where they open. If it is none,
its first defect is told, and where that is. Rendering fails on the paths that are not read and with
the same defect, and then the state of the names stays as it was. -/
theorem placeholders_iff (path : String) :
    (∀ found, placeholders path = .ok found ↔ ∃ t : Template, path = t.path ∧ found = t.found) ∧
    (∀ e, placeholders path = .error e ↔
      e.path = path ∧ FirstDefect path.toList e.offset e.defect) ∧
    ∀ (n : Naming) (e : PathError),
      (n.renderPath path = .error e ↔ placeholders path = .error e) ∧
      (n.renderPath path = .error e → n.call (.path path) = n) :=
  ⟨placeholders_eq_ok_iff path, placeholders_eq_error_iff path, fun n e =>
    ⟨renderPath_eq_error_iff n path e, Naming.call_path_of_error⟩⟩

/-- The second brace that opens is the first defect. It is told by its place in bytes, and no name
is taken up for the placeholder before it. -/
theorem placeholders_iff_nestedBrace :
    let path := "/é/\x7bid\x7d/\x7ba\x7bb"
    let n := Naming.start {} ⟨abapKeywords, []⟩
    FirstDefect path.toList 11 .nested ∧ n.renderPath path = .error ⟨path, 11, .nested⟩ ∧
    n.call (.path path) = n := by
  intro path n
  have hread : placeholders path = .error ⟨path, 11, .nested⟩ := by decide +kernel
  obtain ⟨-, hdefect, hrender⟩ := placeholders_iff path
  obtain ⟨hfails, hstays⟩ := hrender n ⟨path, 11, .nested⟩
  exact ⟨((hdefect _).mp hread).2, hfails.mpr hread, hstays (hfails.mpr hread)⟩

end AbapNaming.PathTemplate
