import AbapNaming.Proofs.Naming.WellFormed
import AbapNaming.Proofs.TypeCodes.Stream

/-! # Buckets have nothing to do with each other

A bucket holds the names that were edited, are too long to be kept whole and have its key, each once
and in the order in which they first came. So two runs that edit the same such names have the same
bucket in the end, and give the same identifiers to all names that belong there or need no bucket,
whatever else is called, and whatever a path has in store.
-/

namespace AbapNaming

namespace Naming

/-- The candidates of a run's edits in order, those for placeholders of paths included. -/
def wholes (n : Naming) (calls : List Call) : List String := (n.editings calls).map Editing.whole

def overlong (n : Naming) (k : String) (wholes : List String) : List String :=
  wholes.filter fun whole => n.isLong whole && decide (n.buckets.key whole = k)

/-- The buckets hold what candidates like these leave in them. -/
def Collects (n : Naming) (wholes : List String) : Prop :=
  ∀ k, n.buckets.members k = (n.overlong k wholes).eraseDups

theorem Extends.overlong_eq {n n' : Naming} (h : n.Extends n') (k : String)
    (wholes : List String) : n'.overlong k wholes = n.overlong k wholes := by
  simp only [overlong, h.isLong_eq, h.buckets.key_eq]

theorem collects_start (limits : Limits) (reserved : Reserved) :
    (start limits reserved).Collects [] := fun _ => rfl

theorem overlong_concat_of_short {n : Naming} {whole : String} (h : n.isLong whole = false)
    (k : String) (wholes : List String) :
    n.overlong k (wholes ++ [whole]) = n.overlong k wholes := by
  simp [overlong, h]

theorem overlong_concat_of_long {n : Naming} {whole : String} (h : n.isLong whole = true)
    (k : String) (wholes : List String) :
    n.overlong k (wholes ++ [whole]) =
      if n.buckets.key whole = k then n.overlong k wholes ++ [whole] else n.overlong k wholes := by
  by_cases hk : n.buckets.key whole = k <;> simp [overlong, h, hk]

theorem Collects.edit {n : Naming} {wholes : List String} (h : n.Collects wholes)
    (name tag : String) : (n.edit name tag).2.Collects (wholes ++ [candidate name tag]) := by
  intro k
  rw [(n.extends_edit name tag).overlong_eq, buckets_edit]
  cases hlong : n.isLong (candidate name tag) with
  | false =>
    rw [bucketsWith_of_short hlong, overlong_concat_of_short hlong]
    exact h k
  | true =>
    rw [bucketsWith_of_long hlong, overlong_concat_of_long hlong, Buckets.members_add]
    by_cases hk : n.buckets.key (candidate name tag) = k
    · rw [if_pos hk, h k]
      by_cases hm : candidate name tag ∈ n.overlong k wholes
      · rw [TypeCodes.eraseDups_concat_of_mem hm,
          if_neg fun hand => hand.2 (List.mem_eraseDups.mpr hm)]
      · rw [TypeCodes.eraseDups_concat_of_notMem hm,
          if_pos ⟨hk, fun hmem => hm (List.mem_eraseDups.mp hmem)⟩]
    · rw [if_neg hk, if_neg fun hand => hk hand.1]
      exact h k

theorem tokenEditings_cons (n : Naming) (token : String) (tokens : List String) :
    n.tokenEditings (token :: tokens) = ⟨n, token, Role.pathValue.tag⟩ ::
      (n.edit token Role.pathValue.tag).2.tokenEditings tokens := rfl

theorem Collects.tokens {n : Naming} {wholes : List String} (h : n.Collects wholes)
    (tokens : List String) :
    (n.afterTokens tokens).Collects (wholes ++ (n.tokenEditings tokens).map Editing.whole) := by
  induction tokens generalizing n wholes with
  | nil =>
    rw [tokenEditings, List.map_nil, List.append_nil]
    exact h
  | cons token tokens ih =>
    rw [afterTokens_cons, tokenEditings_cons, List.map_cons, List.append_cons]
    exact ih (h.edit token Role.pathValue.tag)

theorem Collects.call {n : Naming} {wholes : List String} (h : n.Collects wholes) (c : Call) :
    (n.call c).Collects (wholes ++ (n.editingsOf c).map Editing.whole) := by
  cases c with
  | edit name tag => exact h.edit name tag
  | intern type tag =>
    rw [editingsOf, List.map_nil, List.append_nil]
    intro k
    rw [Naming.call, (n.extends_intern type tag).overlong_eq]
    exact h k
  | path path =>
    rw [call_path]
    exact h.tokens _

theorem Collects.after {n : Naming} {wholes : List String} (h : n.Collects wholes)
    (calls : List Call) : (n.after calls).Collects (wholes ++ n.wholes calls) := by
  induction calls generalizing n wholes with
  | nil =>
    rw [Naming.wholes, editings, List.map_nil, List.append_nil]
    exact h
  | cons c calls ih =>
    rw [after_cons, Naming.wholes, editings, List.map_append, ← List.append_assoc]
    exact ih (h.call c)

/-- A bucket is the names that belong there, each once and in the order in which they came. -/
theorem members_after_start (limits : Limits) (reserved : Reserved) (calls : List Call)
    (k : String) :
    let n := start limits reserved
    (n.after calls).buckets.members k = (n.overlong k (n.wholes calls)).eraseDups := by
  intro n
  rw [(collects_start limits reserved).after calls k, (extends_after n calls).overlong_eq,
    List.nil_append]

theorem WellFormed.bucket?_eq {n : Naming} (h : n.WellFormed) (k : String) :
    n.buckets.bucket? k =
      if n.buckets.members k = [] then none else some (n.buckets.members k) := by
  rw [Buckets.members]
  cases hbucket : n.buckets.bucket? k with
  | none => rfl
  | some names => rw [Option.getD_some, if_neg (h.isBucket_of_bucket? hbucket).ne_nil]

/-- States with the same limits and reserved words edit a name alike if they agree on its bucket, or
if it needs none. -/
theorem edit_eq_of_members_eq {n n' : Naming} {name tag : String} (hlimits : n'.limits = n.limits)
    (hreserved : n'.reserved = n.reserved)
    (htrim : n'.buckets.trimLength = n.buckets.trimLength)
    (hmembers : n.isLong (candidate name tag) = true →
      n'.buckets.members (n.buckets.key (candidate name tag)) =
        n.buckets.members (n.buckets.key (candidate name tag))) :
    (n'.edit name tag).1 = (n.edit name tag).1 := by
  have hlong' : n'.isLong (candidate name tag) = n.isLong (candidate name tag) := by
    rw [isLong, isLong, hlimits]
  have hfitted : n'.fitted (candidate name tag) = n.fitted (candidate name tag) := by
    cases hlong : n.isLong (candidate name tag) with
    | false => rw [fitted_of_short (hlong'.trans hlong), fitted_of_short hlong]
    | true =>
      rw [fitted_of_long (hlong'.trans hlong), fitted_of_long hlong,
        Buckets.shortForm_congr htrim (hmembers hlong)]
  simp only [edit, hfitted, hlong', hreserved]

/-- Runs that edit the same names for a bucket, in the same order, agree on the bucket and on what
becomes of every name that belongs there or is not too long, whatever else they do. -/
theorem edit_eq_of_overlong_eq (limits : Limits) (reserved : Reserved) (k : String)
    {calls calls' : List Call}
    (h : (start limits reserved).overlong k ((start limits reserved).wholes calls) =
      (start limits reserved).overlong k ((start limits reserved).wholes calls')) :
    let n := (start limits reserved).after calls
    let n' := (start limits reserved).after calls'
    n'.buckets.bucket? k = n.buckets.bucket? k ∧
    ∀ name tag, n.isLong (candidate name tag) = false ∨ n.buckets.key (candidate name tag) = k →
      (n'.edit name tag).1 = (n.edit name tag).1 := by
  intro n n'
  have hmembers : n'.buckets.members k = n.buckets.members k := by
    rw [members_after_start, members_after_start, h]
  constructor
  · rw [(wellFormed_after_start limits reserved calls).bucket?_eq,
      (wellFormed_after_start limits reserved calls').bucket?_eq, hmembers]
  · intro name tag hname
    have hn : (start limits reserved).Extends n := extends_after _ calls
    have hn' : (start limits reserved).Extends n' := extends_after _ calls'
    refine edit_eq_of_members_eq (hn'.limits_eq.trans hn.limits_eq.symm)
      (hn'.reserved_eq.trans hn.reserved_eq.symm)
      (hn'.buckets.trimLength_eq.trans hn.buckets.trimLength_eq.symm) fun hlong => ?_
    have hkey : n.buckets.key (candidate name tag) = k := by
      rcases hname with hshort | hkey
      · rw [hshort] at hlong
        cases hlong
      · exact hkey
    rw [hkey]
    exact hmembers

/-- A run with a path that repeats its token and one that is malformed. -/
def pathCalls : List Call :=
  [.path "/rooms/\x7bbedside\x7d/\x7bbedside\x7d", .edit "bedroom" "", .path "/rooms/\x7bwindow"]

def nameCalls : List Call :=
  [.edit "attic" "", .edit "bedside" "iv_p_", .intern "Bed" "ty_", .edit "bedside" ""]

theorem edit_eq_of_overlong_eq_rooms :
    let n := twoOfFive.after pathCalls
    let n' := twoOfFive.after nameCalls
    twoOfFive.overlong "iv" (twoOfFive.wholes pathCalls) = ["iv_p_bedside"] ∧
    n'.buckets.bucket? "iv" = n.buckets.bucket? "iv" ∧
    n'.buckets.bucket? "be" ≠ n.buckets.bucket? "be" ∧
    (n.edit "window" "iv_p_").1 = ⟨"iv001", true, false⟩ ∧
    (n'.edit "window" "iv_p_").1 = ⟨"iv001", true, false⟩ ∧
    (n'.edit "attic" "").1 = (n.edit "attic" "").1 := by
  intro n n'
  have hsame : twoOfFive.overlong "iv" (twoOfFive.wholes pathCalls) =
      twoOfFive.overlong "iv" (twoOfFive.wholes nameCalls) := by decide +kernel
  obtain ⟨hbucket, hedit⟩ := edit_eq_of_overlong_eq _ _ "iv" hsame
  have hwindow : (n.edit "window" "iv_p_").1 = ⟨"iv001", true, false⟩ := by decide +kernel
  refine ⟨by decide +kernel, hbucket, by decide +kernel, hwindow, ?_, ?_⟩
  · exact (hedit "window" "iv_p_" (.inr (by decide +kernel))).trans hwindow
  · exact hedit "attic" "" (.inl (by decide +kernel))

end Naming

end AbapNaming
