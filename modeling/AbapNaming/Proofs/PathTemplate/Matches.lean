import Mathlib.Algebra.Order.BigOperators.Group.List
import Mathlib.Algebra.Order.Ring.Nat
import AbapNaming.Lint.Paths
import AbapNaming.Proofs.PathTemplate.Template
import AbapNaming.Proofs.Text.Search

/-! # Matches in a template

Braces part a layout into its texts, so a needle without braces is searched for and replaced in
each text on its own. A token with its braces matches exactly where it fills a slot.
-/

namespace AbapNaming.PathTemplate

open Text

section

variable {needle : List Char}

theorem replace_slots (hneedle : needle ≠ []) (hplain : IsPlain needle) (new xs : List Char)
    (slots : List Slot) :
    replace needle new (xs ++ slots.flatMap Slot.render) =
      replace needle new xs ++ (slots.map fun s =>
        (⟨replace needle new s.inside, replace needle new s.after⟩ : Slot)).flatMap Slot.render := by
  induction slots generalizing xs with
  | nil => simp
  | cons s slots ih =>
    simp only [List.flatMap_cons, List.map_cons, Slot.render, List.cons_append, List.append_assoc]
    rw [replace_append_cons hneedle hplain.1, replace_append_cons hneedle hplain.2, ih]

theorem replace_render (hneedle : needle ≠ []) (hplain : IsPlain needle) (new : List Char)
    (l : Layout) : replace needle new l.render = (l.map (replace needle new)).render :=
  replace_slots hneedle hplain new l.lead l.slots

theorem count_slots (hneedle : needle ≠ []) (hplain : IsPlain needle) (xs : List Char)
    (slots : List Slot) :
    count needle (xs ++ slots.flatMap Slot.render) =
      count needle xs + (slots.map fun s => count needle s.inside + count needle s.after).sum := by
  induction slots generalizing xs with
  | nil => simp
  | cons s slots ih =>
    simp only [List.flatMap_cons, List.map_cons, Slot.render, List.cons_append, List.append_assoc,
      List.sum_cons]
    rw [count_append_cons hneedle hplain.1, count_append_cons hneedle hplain.2, ih]
    omega

end

/-- Nothing that begins with an opening brace matches in a text without one. -/
theorem count_open_append {xs : List Char} (h : openBrace ∉ xs) (tail ys : List Char) :
    count (openBrace :: tail) (xs ++ ys) = count (openBrace :: tail) ys := by
  induction xs with
  | nil => rfl
  | cons x xs ih =>
    rw [List.mem_cons, not_or] at h
    rw [List.cons_append, count_step, ih h.2]
    rw [List.cons_prefix_cons]
    exact fun hx => h.1 hx.1

/-- Two texts up to the first closing brace are the same if one stands where the other does. -/
theorem eq_of_prefix_closed {xs ys rest : List Char} (hx : closeBrace ∉ xs) (hy : closeBrace ∉ ys)
    (h : xs ++ [closeBrace] <+: ys ++ closeBrace :: rest) : xs = ys := by
  induction xs generalizing ys with
  | nil =>
    cases ys with
    | nil => rfl
    | cons y ys => exact absurd (by simp [(List.cons_prefix_cons.mp h).1]) hy
  | cons x xs ih =>
    cases ys with
    | nil => exact absurd (by simp [(List.cons_prefix_cons.mp h).1]) hx
    | cons y ys =>
      rw [List.mem_cons, not_or] at hx hy
      obtain ⟨rfl, htail⟩ := List.cons_prefix_cons.mp h
      rw [ih hx.2 hy.2 htail]

theorem count_braced_slot {s : Slot} (hinside : IsPlain s.inside) (hafter : IsPlain s.after)
    {token : List Char} (htoken : IsPlain token) (rest : List Char) :
    count (braced token) (s.render ++ rest) =
      (if s.inside = token then 1 else 0) + count (braced token) rest := by
  have hne : braced token ≠ [] := List.cons_ne_nil _ _
  have hafter' : count (braced token) (s.after ++ rest) = count (braced token) rest :=
    count_open_append hafter.1 _ _
  by_cases h : s.inside = token
  · have hmatch : s.render ++ rest = braced token ++ (s.after ++ rest) := by
      simp [Slot.render, braced, h]
    rw [if_pos h, hmatch, count_match hne, hafter', Nat.add_comm]
  · have hno : ¬ braced token <+: openBrace :: (s.inside ++ closeBrace :: (s.after ++ rest)) := by
      intro hbegins
      exact h (eq_of_prefix_closed htoken.2 hinside.2 (List.cons_prefix_cons.mp hbegins).2).symm
    have hclose : openBrace ∉ [closeBrace] := by decide
    have hrender : s.render ++ rest =
        openBrace :: (s.inside ++ closeBrace :: (s.after ++ rest)) := by
      simp [Slot.render]
    have hskip : count (braced token) (s.inside ++ closeBrace :: (s.after ++ rest)) =
        count (braced token) (s.after ++ rest) := by
      rw [braced, List.cons_append, count_open_append hinside.1]
      exact count_open_append hclose _ _
    rw [if_neg h, Nat.zero_add, hrender, count_step hno, hskip, hafter']

theorem count_braced_slots {slots : List Slot} (hinside : ∀ s ∈ slots, IsPlain s.inside)
    (hafter : ∀ s ∈ slots, IsPlain s.after) {token : List Char} (htoken : IsPlain token) :
    count (braced token) (slots.flatMap Slot.render) =
      (slots.map fun s => if s.inside = token then 1 else 0).sum := by
  induction slots with
  | nil => rfl
  | cons s slots ih =>
    simp only [List.forall_mem_cons] at hinside hafter
    rw [List.flatMap_cons, count_braced_slot hinside.1 hafter.1 htoken, ih hinside.2 hafter.2,
      List.map_cons, List.sum_cons]

/-- The text matches between slots, or in a slot that it does not fill. -/
def Layout.Strays (l : Layout) (token : List Char) : Prop :=
  token <:+: l.lead ∨ ∃ s ∈ l.slots, token <:+: s.after ∨ (s.inside ≠ token ∧ token <:+: s.inside)

/-- The matches in a slot that are not the slot's own token. -/
def Slot.strayCount (token : List Char) (s : Slot) : Nat :=
  count token s.after + if s.inside = token then 0 else count token s.inside

theorem Slot.strayCount_eq_zero_iff {token : List Char} (hne : token ≠ []) (s : Slot) :
    s.strayCount token = 0 ↔
      ¬ (token <:+: s.after ∨ (s.inside ≠ token ∧ token <:+: s.inside)) := by
  rw [strayCount, Nat.add_eq_zero_iff, count_eq_zero_iff hne]
  by_cases h : s.inside = token
  · simp [h]
  · simp [h, count_eq_zero_iff hne]

theorem Slot.count_eq {token : List Char} (hne : token ≠ []) (s : Slot) :
    count token s.inside + count token s.after =
      s.strayCount token + if s.inside = token then 1 else 0 := by
  rw [strayCount]
  by_cases h : s.inside = token
  · simp only [h, if_true, count_self hne]
    omega
  · simp only [h, if_false]
    omega

end AbapNaming.PathTemplate
