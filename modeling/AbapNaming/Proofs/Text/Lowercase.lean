import Mathlib.Data.List.Basic
import AbapNaming.Text.Lowercase

/-! # Lowercase stays lowercase

A character is lowered in one of four ways, and what it is lowered to is its own lowercase form.
For the runs of the table that is a matter of their numbers alone: no letter of the table is the
form of another.
-/

namespace AbapNaming.Text

/-- A number that is no character stands for the character zero. -/
theorem toNat_ofNat (n : Nat) : (Char.ofNat n).toNat = n ∨ (Char.ofNat n).toNat = 0 := by
  unfold Char.ofNat
  by_cases h : n.isValidChar
  · rw [dif_pos h]
    exact .inl rfl
  · rw [dif_neg h]
    exact .inr rfl

/-- A lowercase form is that of an ASCII character, of `İ` or of a letter in a run, or else the
character itself. -/
theorem mem_lowerChar_cases {c d : Char} (h : d ∈ lowerChar c) :
    (c.toNat < 128 ∧ d = c.toLower) ∨ (c.toNat = 0x130 ∧ d ∈ ['i', Char.ofNat 0x307]) ∨
      (∃ r ∈ lowerRuns, r.Covers c.toNat ∧ d = Char.ofNat (r.image c.toNat)) ∨
      (lowerChar c = [c] ∧ d = c) := by
  have hdef := lowerChar.eq_1 c
  by_cases hascii : c.toNat < 128
  · rw [hdef, if_pos hascii, List.mem_singleton] at h
    exact .inl ⟨hascii, h⟩
  by_cases hdotted : c.toNat = 0x130
  · rw [hdef, if_neg hascii, if_pos hdotted] at h
    exact .inr (.inl ⟨hdotted, h⟩)
  rw [if_neg hascii, if_neg hdotted] at hdef
  cases hrun : lowerRuns.find? fun r => decide (r.Covers c.toNat) with
  | none =>
    rw [hrun] at hdef
    rw [hdef, List.mem_singleton] at h
    exact .inr (.inr (.inr ⟨hdef, h⟩))
  | some r =>
    rw [hrun] at hdef
    rw [hdef, List.mem_singleton] at h
    have hcovers := List.find?_some hrun
    exact .inr (.inr (.inl
      ⟨r, List.mem_of_find?_eq_some hrun, of_decide_eq_true hcovers, h⟩))

/-! ## ASCII -/

theorem isUpper_bounds {c : Char} (h : c.isUpper = true) : 0x41 ≤ c.toNat ∧ c.toNat ≤ 0x5A := by
  have hrange : 'A'.val ≤ c.val ∧ c.val ≤ 'Z'.val := of_decide_eq_true h
  exact ⟨UInt32.le_iff_toNat_le.mp hrange.1, UInt32.le_iff_toNat_le.mp hrange.2⟩

theorem toNat_toLower {c : Char} (h : c.isUpper = true) : c.toLower.toNat = c.toNat + 0x20 := by
  have hlast := (isUpper_bounds h).2
  have hlower : c.toLower.val = c.val + 0x20 := congrArg Char.val (dif_pos (of_decide_eq_true h))
  have hfits : c.val.toNat + 0x20 < 2 ^ 32 := by
    rw [Char.toNat_val]
    omega
  rw [← Char.toNat_val, hlower, UInt32.toNat_add]
  exact Nat.mod_eq_of_lt hfits

theorem toLower_of_not_isUpper {c : Char} (h : ¬ c.isUpper = true) : c.toLower = c :=
  dif_neg (mt decide_eq_true h)

theorem toLower_not_isUpper (c : Char) : ¬ c.toLower.isUpper = true := by
  by_cases hupper : c.isUpper = true
  · intro hlower
    have hfirst := (isUpper_bounds hupper).1
    have hlast := (isUpper_bounds hlower).2
    rw [toNat_toLower hupper] at hlast
    omega
  · rwa [toLower_of_not_isUpper hupper]

theorem lowerChar_of_ascii {c : Char} (h : c.toNat < 128) : lowerChar c = [c.toLower] := if_pos h

theorem lowerChar_of_not_isUpper {c : Char} (h : c.toNat < 128) (hupper : ¬ c.isUpper = true) :
    lowerChar c = [c] := by
  rw [lowerChar_of_ascii h, toLower_of_not_isUpper hupper]

theorem lowerChar_toLower {c : Char} (h : c.toNat < 128) : lowerChar c.toLower = [c.toLower] := by
  refine lowerChar_of_not_isUpper ?_ (toLower_not_isUpper c)
  by_cases hupper : c.isUpper = true
  · have hlast := (isUpper_bounds hupper).2
    rw [toNat_toLower hupper]
    omega
  · rwa [toLower_of_not_isUpper hupper]

/-! ## Runs of the table -/

theorem lowerRuns_target : ∀ r ∈ lowerRuns, 0x61 ≤ r.target ∧
    (r.target + (r.last - r.first) < 0x130 ∨ 0x130 < r.target) := by
  decide +kernel

def CaseRun.letters (r : CaseRun) : List Nat :=
  List.range' r.first ((r.last - r.first) / r.step + 1) r.step

theorem CaseRun.Covers.mem_letters {r : CaseRun} {n : Nat} (h : r.Covers n) : n ∈ r.letters := by
  obtain ⟨hfirst, hlast, hstep⟩ := h
  have hplace : (n - r.first) / r.step < (r.last - r.first) / r.step + 1 :=
    Nat.lt_succ_of_le (Nat.div_le_div_right (Nat.sub_le_sub_right hlast _))
  refine List.mem_range'.mpr ⟨_, hplace, ?_⟩
  rw [Nat.mul_div_cancel' (Nat.dvd_of_mod_eq_zero hstep)]
  omega

def unionBits {α : Type} (bits : α → Nat) (as : List α) : Nat :=
  as.foldr (fun a union => union ||| bits a) 0

theorem testBit_unionBits {α : Type} {bits : α → Nat} {as : List α} {a : α} {n : Nat} (ha : a ∈ as)
    (hn : (bits a).testBit n = true) : (unionBits bits as).testBit n = true := by
  induction as with
  | nil => cases ha
  | cons b bs ih =>
    rw [unionBits, List.foldr_cons, Nat.testBit_or, Bool.or_eq_true]
    rcases List.mem_cons.mp ha with rfl | ha
    · exact .inr hn
    · exact .inl (ih ha)

/-- The set of the numbers that the letters of the table have, as the bits of one number. -/
def tableBits (number : CaseRun → Nat → Nat) : Nat :=
  unionBits (fun r => unionBits (fun n => 1 <<< number r n) r.letters) lowerRuns

theorem testBit_tableBits (number : CaseRun → Nat → Nat) {r : CaseRun} (hr : r ∈ lowerRuns)
    {n : Nat} (hn : r.Covers n) : (tableBits number).testBit (number r n) = true :=
  testBit_unionBits hr (testBit_unionBits hn.mem_letters (by simp))

theorem letters_and_forms : tableBits (fun _ n => n) &&& tableBits CaseRun.image = 0 := by
  decide +kernel

theorem CaseRun.not_covers_image {r other : CaseRun} (hr : r ∈ lowerRuns)
    (hother : other ∈ lowerRuns) {n : Nat} (hn : r.Covers n) : ¬ other.Covers (r.image n) := by
  intro hcovers
  have hletter := testBit_tableBits (fun _ n => n) hother hcovers
  have hform := testBit_tableBits image hr hn
  have hboth := congrArg (Nat.testBit · (r.image n)) letters_and_forms
  simp [Nat.testBit_and, hletter, hform] at hboth

theorem lowerChar_image {r : CaseRun} (hr : r ∈ lowerRuns) {n : Nat} (hn : r.Covers n) :
    lowerChar (Char.ofNat (r.image n)) = [Char.ofNat (r.image n)] := by
  obtain ⟨hletter, hdotted⟩ := lowerRuns_target r hr
  have himage : r.target ≤ r.image n ∧ r.image n ≤ r.target + (r.last - r.first) := by
    have hlast := hn.2.1
    rw [CaseRun.image]
    omega
  rcases toNat_ofNat (r.image n) with hnumber | hzero
  · by_cases hascii : r.image n < 128
    · refine lowerChar_of_not_isUpper (by omega) fun hupper => ?_
      have hlast := (isUpper_bounds hupper).2
      omega
    · have hother : ∀ other ∈ lowerRuns, ¬ other.Covers (r.image n) :=
        fun _ hmem => CaseRun.not_covers_image hr hmem hn
      have hnone : (lowerRuns.find? fun other => decide (other.Covers (r.image n))) = none := by
        simpa [List.find?_eq_none] using hother
      rw [lowerChar, hnumber, if_neg hascii, if_neg (by omega), hnone]
  · have hchar : Char.ofNat (r.image n) = Char.ofNat 0 := by
      rw [← Char.ofNat_toNat (Char.ofNat (r.image n)), hzero]
    rw [hchar]
    exact lowerChar_of_not_isUpper (by decide) (by decide)

theorem lowerChar_of_mem {c d : Char} (h : d ∈ lowerChar c) : lowerChar d = [d] := by
  rcases mem_lowerChar_cases h with ⟨hascii, rfl⟩ | ⟨-, hd⟩ | ⟨r, hr, hcovers, rfl⟩ | ⟨hself, rfl⟩
  · exact lowerChar_toLower hascii
  · rcases List.mem_pair.mp hd with rfl | rfl
    · exact lowerChar_of_not_isUpper (by decide) (by decide)
    · decide +kernel
  · exact lowerChar_image hr hcovers
  · exact hself

theorem isUpper_eq_false_of_lowerChar {c : Char} (h : lowerChar c = [c]) : c.isUpper = false := by
  by_contra hupper
  rw [Bool.not_eq_false] at hupper
  have hascii : c.toNat < 128 := Nat.lt_of_le_of_lt (isUpper_bounds hupper).2 (by decide)
  rw [lowerChar_of_ascii hascii, List.singleton_inj] at h
  exact toLower_not_isUpper c (h.symm ▸ hupper)

/-- A text without letters to lower has no capital sigma, so it does not matter where it ends. -/
theorem lowerAfter_eq_self (before : List Char) {cs : List Char}
    (h : ∀ c ∈ cs, lowerChar c = [c]) : lowerAfter before cs = cs := by
  induction cs generalizing before with
  | nil => rfl
  | cons c cs ih =>
    obtain ⟨hc, hcs⟩ := List.forall_mem_cons.mp h
    have hsigma : c ≠ capitalSigma := by
      rintro rfl
      exact absurd hc (by decide +kernel)
    rw [lowerAfter, if_neg hsigma, hc, ih _ hcs, List.singleton_append]

end AbapNaming.Text
