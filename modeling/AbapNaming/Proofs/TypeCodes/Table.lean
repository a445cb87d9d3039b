import Mathlib.Data.List.Nodup
import AbapNaming.TypeCodes

/-! # The table of type codes

A request finds the code of its type, or gives it one behind all others. So no type ever has two
codes, each code ends in the number of its place, and a code that was given is found again in
every table that goes on from there.
-/

namespace AbapNaming.TypeCodes

open KeyedList

variable {t : TypeCodes}

/-- A request finds the code, or puts a new one behind the others. -/
theorem assign_cases (t : TypeCodes) (name tag : String) :
    (∃ code, t.code? name = some code ∧ t.assign name tag = (code, t)) ∨
    name ∉ keys t.entries ∧ t.assign name tag =
      (tag ++ suffix t.size, ⟨t.entries ++ [(name, tag ++ suffix t.size)]⟩) := by
  cases hcode : t.code? name with
  | some code => exact .inl ⟨code, rfl, by rw [assign, hcode]⟩
  | none => exact .inr ⟨get?_eq_none_iff.mp hcode, by rw [assign, hcode]⟩

theorem assign_of_known {name code : String} (h : t.code? name = some code) (tag : String) :
    t.assign name tag = (code, t) := by
  rw [assign, h]

theorem code?_assign (t : TypeCodes) (name tag : String) :
    (t.assign name tag).2.code? name = some (t.assign name tag).1 := by
  rcases t.assign_cases name tag with ⟨code, hcode, hfound⟩ | ⟨hnew, hassign⟩
  · rw [hfound]
    exact hcode
  · rw [hassign, code?, get?_append, get?_eq_none_iff.mpr hnew]
    simp

theorem code?_of_prefix {t' : TypeCodes} {name code : String} (hbehind : t.entries <+: t'.entries)
    (h : t.code? name = some code) : t'.code? name = some code := by
  obtain ⟨later, hlater⟩ := hbehind
  rw [code?, ← hlater, get?_append, show get? t.entries name = some code from h, Option.some_or]

/-- No type has two codes, and each code ends in the number of its place. -/
structure Numbered (t : TypeCodes) : Prop where
  names_nodup : (keys t.entries).Nodup
  code_eq : ∀ i name code, t.entries[i]? = some (name, code) → ∃ tag, code = tag ++ suffix i

theorem numbered_empty : empty.Numbered where
  names_nodup := List.nodup_nil
  code_eq i name code h := by cases h

theorem Numbered.assign (h : t.Numbered) (name tag : String) : (t.assign name tag).2.Numbered := by
  rcases t.assign_cases name tag with ⟨code, -, hfound⟩ | ⟨hnew, hassign⟩
  · rw [hfound]
    exact h
  · rw [hassign]
    constructor
    · rw [keys, List.map_append, List.map_singleton, ← List.concat_eq_append]
      exact h.names_nodup.concat hnew
    · intro i other code hi
      rcases Nat.lt_trichotomy i t.size with hbefore | rfl | hbehind
      · rw [List.getElem?_append_left hbefore] at hi
        exact h.code_eq i other code hi
      · rw [size, List.getElem?_concat_length] at hi
        cases hi
        exact ⟨tag, rfl⟩
      · have hlength : (t.entries ++ [(name, tag ++ suffix t.size)]).length ≤ i := by
          rwa [List.length_append, List.length_singleton]
        rw [List.getElem?_eq_none hlength] at hi
        cases hi

end AbapNaming.TypeCodes
