import AbapNaming.Proofs.Remark.Fitting

/-! # White space at the end of a description

White space behind the last full stop is a segment that is not empty. It becomes a sentence without
words, and so do the empty segments in front of it. The remark then ends with more full stops, if
there is room for them.
-/

namespace AbapNaming.Remark

theorem chars_append_blank (maxLength : Nat) (cs : List Char) {blanks : List Char}
    (hblank : ∀ c ∈ blanks, Text.isBlank c = true) :
    ∃ n, chars maxLength (cs ++ blanks) = chars maxLength cs ++ List.replicate n '.' ∧
      (n = 0 ↔ blanks = [] ∨ cs.getLast? ≠ some '.' ∨
        maxLength ≤ (sentences cs).flatten.length) := by
  by_cases hnone : blanks = []
  · exact ⟨0, by simp [hnone], iff_of_true rfl (.inl hnone)⟩
  by_cases hend : cs.getLast? = some '.'
  · obtain ⟨n, hsentences⟩ := sentences_append_blank_of_stop hblank hnone hend
    refine ⟨min (n + 1) (maxLength - (0 + (sentences cs).flatten.length)), ?_, ?_⟩
    · rw [chars, hsentences, fit_append_replicate_stop, chars, List.cons_append]
    · simp only [hnone, hend, ne_eq, not_true_eq_false, false_or]
      omega
  · refine ⟨0, ?_, iff_of_true rfl (.inr (.inl hend))⟩
    rw [chars, sentences_append_blank hblank hend, chars, List.replicate_zero, List.append_nil]

/-- White space at the end of a description leaves the remark alone, or adds full stops to it. It
leaves the remark alone exactly if there is none, or the description does not end with a full stop
in front of it, or the sentences leave no room. -/
theorem ofDescription_append_blank_iff (maxLength : Nat) (text blanks : String)
    (hblank : ∀ c ∈ blanks.toList, Text.isBlank c = true) :
    (∃ n, ofDescription maxLength (some (text ++ blanks)) =
      ofDescription maxLength (some text) ++ String.ofList (List.replicate n '.')) ∧
    (ofDescription maxLength (some (text ++ blanks)) = ofDescription maxLength (some text) ↔
      blanks = "" ∨ text.toList.getLast? ≠ some '.' ∨
        maxLength ≤ ((segments text.toList).map sentence).flatten.length) := by
  obtain ⟨n, hchars, hzero⟩ := chars_append_blank maxLength text.toList hblank
  have hadded : ofDescription maxLength (some (text ++ blanks)) =
      ofDescription maxLength (some text) ++ String.ofList (List.replicate n '.') := by
    rw [ofDescription, String.toList_append, hchars, String.ofList_append, ofDescription]
  have hnone : blanks = "" ↔ blanks.toList = [] := by simp
  refine ⟨⟨n, hadded⟩, ?_⟩
  rw [hnone, ← sentences_eq, ← hzero, hadded]
  constructor
  · intro hsame
    have hlength := congrArg String.length hsame
    rw [String.length_append, String.length_ofList, List.length_replicate] at hlength
    omega
  · rintro rfl
    simp

/-- Behind a word a line end is trimmed, and behind a full stop there may be no room. -/
theorem ofDescription_append_blank_status :
    (∀ c ∈ "\r\n".toList, Text.isBlank c = true) ∧
    ofDescription 60 (some ("Status" ++ "\r\n")) = "\"Status." ∧
    ofDescription 7 (some ("Status." ++ "\r\n")) = "\"Status." := by
  have hblank : ∀ c ∈ "\r\n".toList, Text.isBlank c = true :=
    List.all_eq_true.mp (by decide +kernel)
  obtain ⟨-, hword⟩ := ofDescription_append_blank_iff 60 "Status" "\r\n" hblank
  obtain ⟨-, hstop⟩ := ofDescription_append_blank_iff 7 "Status." "\r\n" hblank
  exact ⟨hblank, (hword.mpr (.inr (.inl (by decide +kernel)))).trans (by decide +kernel),
    (hstop.mpr (.inr (.inr (by decide +kernel)))).trans (by decide +kernel)⟩

/-- A line end behind the last full stop adds another one. -/
theorem ofDescription_lineEnd :
    (∃ c ∈ "Status.".toList, Text.isBlank c = false) ∧
    (∀ c ∈ "\n".toList, Text.isBlank c = true) ∧
    ofDescription 60 (some "Status.") = "\"Status." ∧
    ofDescription 60 (some ("Status." ++ "\n")) = "\"Status.." ∧
    ofDescription 60 (some ("Status." ++ "\n")) ≠ ofDescription 60 (some "Status.") :=
  ⟨⟨'S', by decide +kernel, by decide +kernel⟩, List.all_eq_true.mp (by decide +kernel),
    by decide +kernel, by decide +kernel, by decide +kernel⟩

end AbapNaming.Remark
