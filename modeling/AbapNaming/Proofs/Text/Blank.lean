import Mathlib.Data.List.TakeWhile
import AbapNaming.Text.Blank

/-! # White space around a text

What is trimmed does not depend on the white space at either end.
-/

namespace AbapNaming.Text

variable {cs blanks : List Char}

theorem trim_of_blank (h : ∀ c ∈ cs, isBlank c = true) : trim cs = [] := by
  have hstart : trimStart cs = [] := List.dropWhile_eq_nil_iff.mpr h
  rw [trim, hstart]
  rfl

theorem trimEnd_append_blank (h : ∀ c ∈ blanks, isBlank c = true) (cs : List Char) :
    trimEnd (cs ++ blanks) = trimEnd cs := by
  have hreverse : ∀ c ∈ blanks.reverse, isBlank c = true := by simpa using h
  rw [trimEnd, List.reverse_append, List.dropWhile_append_of_pos hreverse, trimEnd]

theorem trim_append_blank (h : ∀ c ∈ blanks, isBlank c = true) (cs : List Char) :
    trim (cs ++ blanks) = trim cs := by
  by_cases hblank : trimStart cs = []
  · have hall : ∀ c ∈ cs ++ blanks, isBlank c = true :=
      List.forall_mem_append.mpr ⟨List.dropWhile_eq_nil_iff.mp hblank, h⟩
    rw [trim_of_blank hall, trim, hblank]
    rfl
  · have hstart : trimStart (cs ++ blanks) = trimStart cs ++ blanks := by
      rw [trimStart] at hblank
      rw [trimStart, List.dropWhile_append, if_neg (by simpa using hblank), trimStart]
    rw [trim, hstart, trimEnd_append_blank h, trim]

end AbapNaming.Text
