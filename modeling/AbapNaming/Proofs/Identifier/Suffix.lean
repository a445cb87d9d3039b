import Mathlib.Algebra.Order.Ring.Nat
import AbapNaming.Identifier.Suffix

/-! # Numbered suffixes tell numbers apart

Reading the digits of a suffix gives its number back, however many zeros stand in front. So no
two numbers share a suffix, those past 999 included, which take more than the least width.
-/

namespace AbapNaming

theorem Decimal.value_toDigits (n : Nat) : Decimal.value (Nat.toDigits 10 n) = n :=
  Nat.ofDigitChars_ten_toDigits

theorem Decimal.value_padded (width n : Nat) : Decimal.value (Decimal.padded width n) = n := by
  change Nat.ofDigitChars 10 (List.replicate _ '0' ++ Nat.toDigits 10 n) 0 = n
  rw [Nat.ofDigitChars_append, Nat.ofDigitChars_replicate_zero, Nat.mul_zero,
    Nat.ofDigitChars_ten_toDigits]

theorem Decimal.length_padded (width n : Nat) :
    (Decimal.padded width n).length = max width (Nat.toDigits 10 n).length := by
  simp only [Decimal.padded, List.length_append, List.length_replicate]
  omega

theorem isDigit_of_mem_suffixDigits {n : Nat} {c : Char} (h : c ∈ suffixDigits n) :
    c.isDigit = true := by
  rcases List.mem_append.mp h with h | h
  · rw [List.eq_of_mem_replicate h]
    rfl
  · exact Nat.isDigit_of_mem_toDigits (by omega) (by omega) h

theorem suffixDigits_inj {m n : Nat} : suffixDigits m = suffixDigits n ↔ m = n := by
  constructor
  · intro h
    have hvalue := congrArg Decimal.value h
    rwa [suffixDigits, suffixDigits, Decimal.value_padded, Decimal.value_padded] at hvalue
  · exact congrArg suffixDigits

@[simp] theorem suffix_toList (n : Nat) : (suffix n).toList = suffixDigits n := by
  rw [suffix, String.toList_ofList]

theorem suffix_inj {m n : Nat} : suffix m = suffix n ↔ m = n := by
  rw [← String.toList_inj, suffix_toList, suffix_toList, suffixDigits_inj]

theorem suffixWidth_le_length (n : Nat) : suffixWidth ≤ (suffixDigits n).length := by
  rw [suffixDigits, Decimal.length_padded]
  omega

theorem length_suffix (n : Nat) :
    (suffix n).length = max suffixWidth (Nat.toDigits 10 n).length := by
  rw [← String.length_toList, suffix_toList, suffixDigits, Decimal.length_padded]

/-- From a power of ten on a suffix is wider than a width that holds the shortest ones. -/
theorem lt_length_suffix_iff {width n : Nat} (h : suffixWidth ≤ width) :
    width < (suffix n).length ↔ 10 ^ width ≤ n := by
  have hpos : 0 < width := Nat.lt_of_lt_of_le (by decide) h
  have hdigits : (Nat.toDigits 10 n).length ≤ width ↔ n < 10 ^ width :=
    Nat.length_toDigits_le_iff (by decide) hpos
  rw [length_suffix]
  omega

theorem length_suffix_of_lt {n : Nat} (h : n < 10 ^ suffixWidth) :
    (suffix n).length = suffixWidth := by
  have hwide : ¬ suffixWidth < (suffix n).length :=
    mt (lt_length_suffix_iff (Nat.le_refl _)).mp (Nat.not_le.mpr h)
  rw [length_suffix] at hwide ⊢
  omega

theorem length_suffixDigits_zero : (suffixDigits 0).length = suffixWidth := rfl

end AbapNaming
