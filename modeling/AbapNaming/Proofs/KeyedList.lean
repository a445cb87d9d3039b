import Mathlib.Data.List.Nodup
import AbapNaming.KeyedList

/-! # Lists in which no key is repeated

A key that a list has is found there, and its entry can be put there again. Where no key is repeated
it is found in its only entry, so the order of the entries has no part in it.
-/

namespace AbapNaming.KeyedList

variable {α : Type} {l l' : KeyedList α} {k : String} {v : α}

theorem exists_get?_of_mem_keys (h : k ∈ keys l) : ∃ v, get? l k = some v := by
  cases hget : get? l k with
  | some v => exact ⟨v, rfl⟩
  | none => exact absurd h (get?_eq_none_iff.mp hget)

theorem insert_eq_self (h : get? l k = some v) : insert l k v = l := by
  induction l with
  | nil => cases h
  | cons e l ih =>
    obtain ⟨k', v'⟩ := e
    rw [get?_cons] at h
    by_cases hk : k' = k
    · rw [if_pos hk] at h
      have hv : v' = v := Option.some.inj h
      rw [insert, if_pos hk, hk, hv]
    · rw [if_neg hk] at h
      rw [insert, if_neg hk, ih h]

theorem mem_keys_of_mem (h : (k, v) ∈ l) : k ∈ keys l := List.mem_map_of_mem h

theorem get?_eq_some_iff_of_nodup (h : (keys l).Nodup) : get? l k = some v ↔ (k, v) ∈ l := by
  refine ⟨mem_of_get?_eq_some, fun hmem => ?_⟩
  induction l with
  | nil => cases hmem
  | cons e l ih =>
    obtain ⟨hnew, hrest⟩ := List.nodup_cons.mp h
    rw [get?_cons]
    rcases List.mem_cons.mp hmem with rfl | hmem
    · exact if_pos rfl
    · have hne : e.1 ≠ k := fun hsame => hnew (hsame ▸ mem_keys_of_mem hmem)
      rw [if_neg hne]
      exact ih hrest hmem

theorem perm_keys (h : l.Perm l') : (keys l).Perm (keys l') := h.map Prod.fst

theorem get?_eq_of_perm (h : l.Perm l') (hkeys : (keys l).Nodup) (k : String) :
    get? l k = get? l' k := by
  ext v
  rw [get?_eq_some_iff_of_nodup hkeys, get?_eq_some_iff_of_nodup ((perm_keys h).nodup_iff.mp hkeys),
    h.mem_iff]

end AbapNaming.KeyedList
