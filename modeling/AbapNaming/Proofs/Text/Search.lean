import Mathlib.Data.List.Infix
import AbapNaming.Text.Search

/-! # Matches in a text

A text goes on with a match or with a character at which none begins, and that is how it is
searched. A character that is not in the needle parts the text: no match reaches across it, so
both sides can be searched on their own.
-/

namespace AbapNaming.Text

theorem occursIn_iff (needle cs : List Char) : occursIn needle cs = true ↔ needle <:+: cs := by
  induction cs with
  | nil => simp [occursIn, List.infix_nil]
  | cons c cs ih =>
    rw [occursIn, Bool.or_eq_true, List.isPrefixOf_iff_prefix, ih, List.infix_cons_iff]

theorem replaceFrom_skip (needle new rest : List Char) (skipped : List Char) :
    replaceFrom needle new skipped.length (skipped ++ rest) = replaceFrom needle new 0 rest := by
  induction skipped with
  | nil => rfl
  | cons c skipped ih => rw [List.length_cons, List.cons_append, replaceFrom, ih]

theorem countFrom_skip (needle rest skipped : List Char) :
    countFrom needle skipped.length (skipped ++ rest) = countFrom needle 0 rest := by
  induction skipped with
  | nil => rfl
  | cons c skipped ih => rw [List.length_cons, List.cons_append, countFrom, ih]

section

variable {needle : List Char}

theorem replace_match (h : needle ≠ []) (new rest : List Char) :
    replace needle new (needle ++ rest) = new ++ replace needle new rest := by
  obtain ⟨c, tail, rfl⟩ := List.exists_cons_of_ne_nil h
  have hbegins : (c :: tail).isPrefixOf (c :: (tail ++ rest)) = true :=
    List.isPrefixOf_iff_prefix.mpr (List.prefix_append (c :: tail) rest)
  rw [replace, List.cons_append, replaceFrom, if_pos hbegins, List.length_cons, Nat.add_sub_cancel,
    replaceFrom_skip, replace]

theorem replace_step {c : Char} {cs : List Char} (h : ¬ needle <+: c :: cs) (new : List Char) :
    replace needle new (c :: cs) = c :: replace needle new cs := by
  rw [replace, replaceFrom, if_neg (mt List.isPrefixOf_iff_prefix.mp h), replace]

theorem count_match (h : needle ≠ []) (rest : List Char) :
    count needle (needle ++ rest) = count needle rest + 1 := by
  obtain ⟨c, tail, rfl⟩ := List.exists_cons_of_ne_nil h
  have hbegins : (c :: tail).isPrefixOf (c :: (tail ++ rest)) = true :=
    List.isPrefixOf_iff_prefix.mpr (List.prefix_append (c :: tail) rest)
  rw [count, List.cons_append, countFrom, if_pos hbegins, List.length_cons, Nat.add_sub_cancel,
    countFrom_skip, count]

theorem count_step {c : Char} {cs : List Char} (h : ¬ needle <+: c :: cs) :
    count needle (c :: cs) = count needle cs := by
  rw [count, countFrom, if_neg (mt List.isPrefixOf_iff_prefix.mp h), count]

/-- A text is searched from match to match, or character by character where there is none. -/
theorem matchInduction {motive : List Char → Prop} (hneedle : needle ≠ []) (nil : motive [])
    (here : ∀ rest, motive rest → motive (needle ++ rest))
    (step : ∀ c cs, ¬ needle <+: c :: cs → motive cs → motive (c :: cs)) (cs : List Char) :
    motive cs := by
  induction hlength : cs.length using Nat.strong_induction_on generalizing cs with
  | h n ih =>
    cases cs with
    | nil => exact nil
    | cons c cs =>
      by_cases hbegins : needle <+: c :: cs
      · obtain ⟨rest, hrest⟩ := hbegins
        have hpos := List.length_pos_iff.mpr hneedle
        have hsum := congrArg List.length hrest
        rw [List.length_append] at hsum
        rw [← hrest]
        exact here rest (ih rest.length (by omega) rest rfl)
      · refine step c cs hbegins (ih cs.length ?_ cs rfl)
        rw [← hlength, List.length_cons]
        omega

theorem not_prefix_cons (hneedle : needle ≠ []) {c : Char} (hc : c ∉ needle) (cs : List Char) :
    ¬ needle <+: c :: cs := by
  intro hbegins
  rcases List.prefix_cons_iff.mp hbegins with rfl | ⟨tail, rfl, -⟩
  · exact hneedle rfl
  · exact hc List.mem_cons_self

theorem prefix_of_prefix_append_cons {c : Char} (hc : c ∉ needle) {xs ys : List Char}
    (h : needle <+: xs ++ c :: ys) : needle <+: xs := by
  rcases List.prefix_or_prefix_of_prefix h (List.prefix_append xs (c :: ys)) with hshort | hlong
  · exact hshort
  · obtain ⟨rest, rfl⟩ := hlong
    have hrest := (List.prefix_append_right_inj xs).mp h
    rcases List.prefix_cons_iff.mp hrest with rfl | ⟨tail, rfl, -⟩
    · rw [List.append_nil]
    · exact absurd (by simp) hc

theorem replace_append_cons (hneedle : needle ≠ []) {c : Char} (hc : c ∉ needle) (new ys : List Char)
    (xs : List Char) :
    replace needle new (xs ++ c :: ys) = replace needle new xs ++ c :: replace needle new ys := by
  induction xs using matchInduction hneedle with
  | nil => exact replace_step (not_prefix_cons hneedle hc ys) new
  | here rest ih =>
    rw [List.append_assoc, replace_match hneedle, replace_match hneedle, ih, List.append_assoc]
  | step x xs hx ih =>
    have hlater : ¬ needle <+: (x :: xs) ++ c :: ys := fun hbegins =>
      hx (prefix_of_prefix_append_cons hc hbegins)
    rw [List.cons_append] at hlater ⊢
    rw [replace_step hlater, replace_step hx, ih, List.cons_append]

theorem count_append_cons (hneedle : needle ≠ []) {c : Char} (hc : c ∉ needle) (ys xs : List Char) :
    count needle (xs ++ c :: ys) = count needle xs + count needle ys := by
  induction xs using matchInduction hneedle with
  | nil =>
    rw [List.nil_append, count_step (not_prefix_cons hneedle hc ys)]
    exact (Nat.zero_add _).symm
  | here rest ih =>
    rw [List.append_assoc, count_match hneedle, count_match hneedle, ih]
    omega
  | step x xs hx ih =>
    have hlater : ¬ needle <+: (x :: xs) ++ c :: ys := fun hbegins =>
      hx (prefix_of_prefix_append_cons hc hbegins)
    rw [List.cons_append] at hlater ⊢
    rw [count_step hlater, count_step hx, ih]

theorem count_eq_zero_iff (hneedle : needle ≠ []) (cs : List Char) :
    count needle cs = 0 ↔ ¬ needle <:+: cs := by
  induction cs using matchInduction hneedle with
  | nil => simp [count, countFrom, List.infix_nil, hneedle]
  | here rest _ =>
    rw [count_match hneedle]
    simp [(List.prefix_append needle rest).isInfix]
  | step c cs hc ih => rw [count_step hc, ih, List.infix_cons_iff, or_iff_right hc]

theorem count_self (hneedle : needle ≠ []) : count needle needle = 1 := by
  have h := count_match hneedle []
  rwa [List.append_nil] at h

theorem replace_self_match (hneedle : needle ≠ []) (new : List Char) :
    replace needle new needle = new := by
  calc replace needle new needle
      = replace needle new (needle ++ []) := by rw [List.append_nil]
    _ = new ++ [] := replace_match hneedle new []
    _ = new := List.append_nil new

/-- Each match trades the length of the needle for that of the text put in its place. -/
theorem length_replace (hneedle : needle ≠ []) (new cs : List Char) :
    (replace needle new cs).length + count needle cs * needle.length =
      cs.length + count needle cs * new.length := by
  induction cs using matchInduction hneedle with
  | nil => simp [replace, replaceFrom, count, countFrom]
  | here rest ih =>
    rw [replace_match hneedle, count_match hneedle, List.length_append, List.length_append,
      Nat.add_mul, Nat.add_mul]
    omega
  | step c cs hc ih =>
    rw [replace_step hc, count_step hc, List.length_cons, List.length_cons]
    omega

theorem replace_of_no_match (hneedle : needle ≠ []) (new : List Char) {cs : List Char}
    (h : ¬ needle <:+: cs) : replace needle new cs = cs := by
  induction cs using matchInduction hneedle with
  | nil => rfl
  | here rest _ => exact absurd (List.prefix_append needle rest).isInfix h
  | step c cs hc ih =>
    rw [replace_step hc, ih (mt (fun hcs => List.infix_cons_iff.mpr (.inr hcs)) h)]

theorem replace_with_self (hneedle : needle ≠ []) (cs : List Char) :
    replace needle needle cs = cs := by
  induction cs using matchInduction hneedle with
  | nil => rfl
  | here rest ih => rw [replace_match hneedle, ih]
  | step c cs hc ih => rw [replace_step hc, ih]

theorem eq_needle_of_replace_eq_self (hneedle : needle ≠ []) {new cs : List Char}
    (hsame : new.length = needle.length) (h : replace needle new cs = cs)
    (hoccurs : needle <:+: cs) : new = needle := by
  induction cs using matchInduction hneedle with
  | nil => exact absurd (List.infix_nil.mp hoccurs) hneedle
  | here rest _ =>
    rw [replace_match hneedle] at h
    exact (List.append_inj h hsame).1
  | step c cs hc ih =>
    rw [replace_step hc] at h
    exact ih (List.cons.inj h).2 ((List.infix_cons_iff.mp hoccurs).resolve_left hc)

/-- A replacement that reaches a text leaves it alone only if it puts the needle back. -/
theorem replace_eq_self_iff (hneedle : needle ≠ []) (new cs : List Char) :
    replace needle new cs = cs ↔ (needle <:+: cs → new = needle) := by
  constructor
  · intro h hoccurs
    have hcount : 0 < count needle cs := Nat.pos_of_ne_zero fun hzero =>
      (count_eq_zero_iff hneedle cs).mp hzero hoccurs
    have hlength := length_replace hneedle new cs
    rw [h] at hlength
    have hsame := Nat.eq_of_mul_eq_mul_left hcount (Nat.add_left_cancel hlength)
    exact eq_needle_of_replace_eq_self hneedle hsame.symm h hoccurs
  · intro h
    by_cases hoccurs : needle <:+: cs
    · rw [h hoccurs, replace_with_self hneedle]
    · exact replace_of_no_match hneedle new hoccurs

end

end AbapNaming.Text
