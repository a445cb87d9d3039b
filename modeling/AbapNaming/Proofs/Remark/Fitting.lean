import Mathlib.Data.Nat.Find
import Mathlib.Order.Bounds.Basic
import AbapNaming.Proofs.Remark.Sentences

/-! # The sentences that fit

Sentences are taken from the front while they fit, and those that fit are as many as possible: no
longer run from the front has the room. Only a first sentence that does not fit is cut.
-/

namespace AbapNaming.Remark

section

variable {maxLength used : Nat} {ss rest : List (List Char)}

/-- Sentences that fit are taken as a whole, and the search goes on behind them. -/
theorem fit_append_of_fits (h : used + ss.flatten.length ≤ maxLength)
    (rest : List (List Char)) :
    fit maxLength used (ss ++ rest) =
      ss.flatten ++ fit maxLength (used + ss.flatten.length) rest := by
  induction ss generalizing used with
  | nil => simp
  | cons s ss ih =>
    rw [List.flatten_cons, List.length_append] at h
    have hfits : ¬ maxLength < used + s.length := by omega
    have hlater : used + s.length + ss.flatten.length ≤ maxLength := by omega
    rw [List.cons_append, fit, if_neg hfits, ih hlater, List.flatten_cons, List.length_append,
      List.append_assoc, Nat.add_assoc]

theorem fit_of_not_fits {s : List Char} (h : maxLength < used + s.length) (hused : used ≠ 0) :
    fit maxLength used (s :: rest) = [] := by
  rw [fit, if_pos h, if_neg hused]

theorem fit_of_no_room (h : maxLength ≤ used) (hne : ∀ s ∈ ss, s ≠ []) :
    fit maxLength used ss = [] := by
  cases ss with
  | nil => rfl
  | cons s ss =>
    have hlength := List.length_pos_iff.mpr (hne s List.mem_cons_self)
    have hlong : maxLength < used + s.length := by omega
    by_cases hused : used = 0
    · have hnone : maxLength = 0 := by omega
      rw [fit, if_pos hlong, if_pos hused, hnone, List.take_zero]
    · exact fit_of_not_fits hlong hused

theorem fit_replicate_stop (maxLength used n : Nat) :
    fit maxLength used (List.replicate n ['.']) =
      List.replicate (min n (maxLength - used)) '.' := by
  induction n generalizing used with
  | zero => simp [fit]
  | succ n ih =>
    by_cases hfull : maxLength ≤ used
    · have hnone : min (n + 1) (maxLength - used) = 0 := by omega
      have hstops : ∀ s ∈ List.replicate (n + 1) ['.'], s ≠ [] := by simp
      rw [fit_of_no_room hfull hstops, hnone, List.replicate_zero]
    · have hfits : ¬ maxLength < used + 1 := by omega
      have hmore : min (n + 1) (maxLength - used) = min n (maxLength - (used + 1)) + 1 := by omega
      rw [List.replicate_succ, fit, List.length_singleton, if_neg hfits, ih, hmore,
        List.replicate_succ, List.singleton_append]

/-- Full stops behind sentences are taken as far as the sentences leave room. -/
theorem fit_append_replicate_stop (maxLength used n : Nat) (ss : List (List Char)) :
    fit maxLength used (ss ++ List.replicate n ['.']) =
      fit maxLength used ss ++
        List.replicate (min n (maxLength - (used + ss.flatten.length))) '.' := by
  induction ss generalizing used with
  | nil =>
    rw [List.nil_append, fit_replicate_stop]
    simp [fit]
  | cons s ss ih =>
    rw [List.flatten_cons, List.length_append, ← Nat.add_assoc, List.cons_append, fit, fit]
    by_cases hlong : maxLength < used + s.length
    · have hnone : min n (maxLength - (used + s.length + ss.flatten.length)) = 0 := by omega
      rw [if_pos hlong, if_pos hlong, hnone, List.replicate_zero, List.append_nil]
    · rw [if_neg hlong, if_neg hlong, ih, List.append_assoc]

/-- Some number of sentences is the largest one that fits. -/
theorem exists_isGreatest (maxLength : Nat) (ss : List (List Char)) :
    ∃ k, IsGreatest {k | k ≤ ss.length ∧ (ss.take k).flatten.length ≤ maxLength} k := by
  have hnone : (ss.take 0).flatten.length ≤ maxLength := by simp
  refine ⟨Nat.findGreatest (fun k => (ss.take k).flatten.length ≤ maxLength) ss.length,
    ⟨Nat.findGreatest_le _, ?_⟩, fun k hk => Nat.le_findGreatest hk.1 hk.2⟩
  exact Nat.findGreatest_spec (P := fun k => (ss.take k).flatten.length ≤ maxLength)
    (Nat.zero_le _) hnone

theorem length_flatten_take_pos {k : Nat} (hne : ∀ s ∈ ss, s ≠ []) (hss : ss ≠ [])
    (hk : k ≠ 0) : 0 < (ss.take k).flatten.length := by
  obtain ⟨s, rest, rfl⟩ := List.exists_cons_of_ne_nil hss
  obtain ⟨n, rfl⟩ := Nat.exists_eq_succ_of_ne_zero hk
  have hlength := List.length_pos_iff.mpr (hne s List.mem_cons_self)
  rw [List.take_succ_cons, List.flatten_cons, List.length_append]
  omega

theorem fit_of_take_fits {k : Nat} (h : (ss.take k).flatten.length ≤ maxLength) :
    fit maxLength 0 ss =
      (ss.take k).flatten ++ fit maxLength (ss.take k).flatten.length (ss.drop k) := by
  have hroom : 0 + (ss.take k).flatten.length ≤ maxLength := by omega
  have htaken := fit_append_of_fits hroom (ss.drop k)
  rwa [List.take_append_drop, Nat.zero_add] at htaken

/-- The sentence behind the largest number that fit does not fit. -/
theorem lt_of_isGreatest {k : Nat} {s : List Char}
    (hk : IsGreatest {k | k ≤ ss.length ∧ (ss.take k).flatten.length ≤ maxLength} k)
    (hdrop : ss.drop k = s :: rest) : maxLength < (ss.take k).flatten.length + s.length := by
  by_contra hshort
  have hcount := congrArg List.length hdrop
  rw [List.length_drop, List.length_cons] at hcount
  have hnext : (ss.take (k + 1)).flatten = (ss.take k).flatten ++ s := by
    rw [List.take_add, hdrop, List.flatten_append]
    simp
  have hin : k + 1 ≤ k := by
    apply hk.2
    refine ⟨by omega, ?_⟩
    rw [hnext, List.length_append]
    omega
  omega

/-- The largest number of sentences that fit is taken, or the beginning of the first one. -/
theorem fit_of_isGreatest {k : Nat} (hne : ∀ s ∈ ss, s ≠ [])
    (hk : IsGreatest {k | k ≤ ss.length ∧ (ss.take k).flatten.length ≤ maxLength} k) :
    fit maxLength 0 ss =
      if k = 0 then (ss.head?.getD []).take maxLength else (ss.take k).flatten := by
  have htaken := fit_of_take_fits hk.1.2
  cases hdrop : ss.drop k with
  | nil =>
    -- All sentences fit, or there is none.
    rw [htaken, hdrop, fit, List.append_nil]
    by_cases hzero : k = 0
    · subst hzero
      rw [List.drop_zero] at hdrop
      simp [hdrop]
    · rw [if_neg hzero]
  | cons s rest =>
    have hlong := lt_of_isGreatest hk hdrop
    by_cases hzero : k = 0
    · subst hzero
      rw [List.drop_zero] at hdrop
      have hfirst : maxLength < 0 + s.length := by simpa using hlong
      rw [hdrop, fit, if_pos hfirst, if_pos rfl, if_pos rfl]
      rfl
    · have hss : ss ≠ [] := by
        rintro rfl
        simp at hdrop
      have hpos := length_flatten_take_pos hne hss hzero
      rw [htaken, hdrop, fit_of_not_fits hlong (by omega), List.append_nil, if_neg hzero]

end

theorem chars_of_isGreatest {maxLength k : Nat} {cs : List Char}
    (hk : IsGreatest {k | k ≤ ((segments cs).map sentence).length ∧
      (((segments cs).map sentence).take k).flatten.length ≤ maxLength} k) :
    chars maxLength cs = '"' ::
      if k = 0 then (((segments cs).map sentence).head?.getD []).take maxLength
      else (((segments cs).map sentence).take k).flatten := by
  rw [chars, sentences_eq, fit_of_isGreatest _ hk]
  rw [← sentences_eq]
  exact fun s => ne_nil_of_mem_sentences

theorem length_chars_le (maxLength : Nat) (cs : List Char) :
    (chars maxLength cs).length ≤ maxLength + 1 := by
  obtain ⟨k, hk⟩ := exists_isGreatest maxLength ((segments cs).map sentence)
  rw [chars_of_isGreatest hk, List.length_cons]
  apply Nat.add_le_add_right
  by_cases hzero : k = 0
  · rw [if_pos hzero]
    exact List.length_take_le _ _
  · rw [if_neg hzero]
    exact hk.1.2

/-- The remark holds the largest number of sentences that fit, or the beginning of the first one if
not even that fits. So it is at most one character longer than what may stand behind the quote, and
full stops at the end of a description change nothing unless it has nothing else. -/
theorem ofDescription_isGreatest (maxLength : Nat) (text : String) :
    let ss := (segments text.toList).map sentence
    (∃ k, IsGreatest {k | k ≤ ss.length ∧ (ss.take k).flatten.length ≤ maxLength} k ∧
      ofDescription maxLength (some text) = String.ofList ('"' ::
        if k = 0 then (ss.head?.getD []).take maxLength else (ss.take k).flatten)) ∧
    (ofDescription maxLength (some text)).length ≤ maxLength + 1 ∧
    ∀ n, text ≠ "" →
      ofDescription maxLength (some (text ++ String.ofList (List.replicate n '.'))) =
        ofDescription maxLength (some text) := by
  intro ss
  obtain ⟨k, hk⟩ := exists_isGreatest maxLength ss
  refine ⟨⟨k, hk, ?_⟩, ?_, fun n htext => ?_⟩
  · rw [ofDescription, chars_of_isGreatest hk]
  · rw [ofDescription, String.length_ofList]
    exact length_chars_le maxLength text.toList
  · have hne : text.toList ≠ [] := by simpa using htext
    rw [ofDescription, String.toList_append, String.toList_ofList, chars,
      sentences_append_stops hne, ofDescription, chars]

/-- Two of three sentences fit, and more full stops are none. -/
theorem ofDescription_isGreatest_pets :
    let text := "Cats. Dogs. Birds."
    (segments text.toList).map sentence =
      ["Cats.".toList, "Dogs.".toList, "Birds.".toList] ∧
    ofDescription 12 (some text) = "\"Cats.Dogs." ∧ text ≠ "" ∧
    ofDescription 12 (some (text ++ String.ofList (List.replicate 3 '.'))) = "\"Cats.Dogs." := by
  intro text
  have hremark : ofDescription 12 (some text) = "\"Cats.Dogs." := by decide +kernel
  have hne : text ≠ "" := by decide +kernel
  obtain ⟨-, -, hstops⟩ := ofDescription_isGreatest 12 text
  exact ⟨by decide +kernel, hremark, hne, (hstops 3 hne).trans hremark⟩

end AbapNaming.Remark
