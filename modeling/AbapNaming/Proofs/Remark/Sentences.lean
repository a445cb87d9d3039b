import Mathlib.Data.List.DropRight
import AbapNaming.Remark
import AbapNaming.Proofs.Text.Blank

/-! # The sentences of a description

A description is split at its full stops. Empty segments at its end are left off before the rest
is trimmed, so full stops at the end add no sentence, but white space behind the last one does.
-/

namespace AbapNaming.Remark

def sentence (segment : List Char) : List Char := Text.trim segment ++ ['.']

/-- What stands between the full stops of a text, without the empty segments at its end. A text
without full stops is one segment, even if it is empty. -/
def segments (cs : List Char) : List (List Char) :=
  if '.' ∈ cs then (cs.splitOn '.').rdropWhile List.isEmpty else [cs]

theorem pieces_eq_splitOn (cs : List Char) : pieces cs = cs.splitOn '.' := by
  induction cs with
  | nil => rfl
  | cons c cs ih =>
    rw [pieces, ih, List.splitOn_cons_eq_if_modifyHead]
    by_cases hstop : c = '.'
    · simp [hstop]
    · obtain ⟨p, ps, hsplit⟩ := List.exists_cons_of_ne_nil (List.splitOn_ne_nil '.' cs)
      simp [hstop, hsplit]

theorem dropEmptyEnd_pieces (cs : List Char) : dropEmptyEnd (pieces cs) = segments cs := by
  rw [pieces_eq_splitOn, segments, dropEmptyEnd]
  by_cases hstop : '.' ∈ cs
  · obtain ⟨front, rest, rfl⟩ := List.append_of_mem hstop
    have hfront := List.length_pos_iff.mpr (List.splitOn_ne_nil '.' front)
    have hrest := List.length_pos_iff.mpr (List.splitOn_ne_nil '.' rest)
    rw [if_pos hstop, if_neg, List.rdropWhile]
    rw [List.splitOn_append_cons_self, List.length_append]
    omega
  · rw [if_neg hstop, List.splitOn_eq_singleton hstop]
    rfl

theorem sentences_eq (cs : List Char) : sentences cs = (segments cs).map sentence := by
  rw [sentences, dropEmptyEnd_pieces]
  rfl

theorem ne_nil_of_mem_sentences {cs s : List Char} (h : s ∈ sentences cs) : s ≠ [] := by
  rw [sentences_eq] at h
  obtain ⟨segment, -, rfl⟩ := List.mem_map.mp h
  simp [sentence]

theorem sentence_of_blank {cs : List Char} (h : ∀ c ∈ cs, Text.isBlank c = true) :
    sentence cs = ['.'] := by
  rw [sentence, Text.trim_of_blank h, List.nil_append]

section

variable {cs front last blanks : List Char}

theorem splitOn_last (hlast : '.' ∉ last) :
    (front ++ '.' :: last).splitOn '.' = front.splitOn '.' ++ [last] := by
  rw [List.splitOn_append_cons_self, List.splitOn_eq_singleton hlast]

theorem segments_of_last (hlast : '.' ∉ last) (hne : last ≠ []) :
    segments (front ++ '.' :: last) = front.splitOn '.' ++ [last] := by
  rw [segments, if_pos (by simp), splitOn_last hlast, List.rdropWhile_concat_neg]
  simpa using hne

theorem segments_of_stop (front : List Char) :
    segments (front ++ ['.']) = (front.splitOn '.').rdropWhile List.isEmpty := by
  rw [segments, if_pos (by simp), splitOn_last List.not_mem_nil, List.rdropWhile_concat_pos]
  rfl

theorem segments_append_stop (hne : cs ≠ []) : segments (cs ++ ['.']) = segments cs := by
  rw [segments_of_stop]
  by_cases hstop : '.' ∈ cs
  · rw [segments, if_pos hstop]
  · rw [segments, if_neg hstop, List.splitOn_eq_singleton hstop, List.rdropWhile_singleton]
    simp [hne]

theorem sentences_append_stops (hne : cs ≠ []) (n : Nat) :
    sentences (cs ++ List.replicate n '.') = sentences cs := by
  induction n with
  | zero => rw [List.replicate_zero, List.append_nil]
  | succ n ih =>
    rw [List.replicate_succ', ← List.append_assoc, sentences_eq, segments_append_stop,
      ← sentences_eq, ih]
    simp [hne]

/-- A text either has no full stop or ends with what stands behind its last one. -/
theorem exists_last (cs : List Char) :
    '.' ∉ cs ∨ ∃ front last, cs = front ++ '.' :: last ∧ '.' ∉ last := by
  by_cases hstop : '.' ∈ cs
  · obtain ⟨last, front, hsplit, hlast⟩ := List.eq_append_cons_of_mem (List.mem_reverse.mpr hstop)
    refine .inr ⟨front.reverse, last.reverse, ?_, by simpa using hlast⟩
    rw [← List.reverse_reverse cs, hsplit]
    simp
  · exact .inl hstop

/-- White space behind anything but a full stop is trimmed. -/
theorem sentences_append_blank (hblank : ∀ c ∈ blanks, Text.isBlank c = true)
    (hend : cs.getLast? ≠ some '.') : sentences (cs ++ blanks) = sentences cs := by
  have hstops : '.' ∉ blanks := fun hmem => absurd (hblank _ hmem) (by decide)
  have hsentence (segment : List Char) : sentence (segment ++ blanks) = sentence segment := by
    rw [sentence, Text.trim_append_blank hblank, sentence]
  rw [sentences_eq, sentences_eq]
  rcases exists_last cs with hnone | ⟨front, last, rfl, hlast⟩
  · have hnone' : '.' ∉ cs ++ blanks := by simp [hnone, hstops]
    rw [segments, if_neg hnone', segments, if_neg hnone, List.map_singleton, hsentence,
      List.map_singleton]
  · have hne : last ≠ [] := by
      rintro rfl
      simp at hend
    have hlast' : '.' ∉ last ++ blanks := by simp [hlast, hstops]
    rw [List.append_assoc, List.cons_append, segments_of_last hlast' (by simp [hne]),
      segments_of_last hlast hne, List.map_append, List.map_singleton, hsentence,
      List.map_append, List.map_singleton]

/-- White space behind a full stop is a segment of its own. With it the empty segments in front of
it count, too, and each is a sentence of one full stop. -/
theorem sentences_append_blank_of_stop (hblank : ∀ c ∈ blanks, Text.isBlank c = true)
    (hne : blanks ≠ []) (hend : cs.getLast? = some '.') :
    ∃ n, sentences (cs ++ blanks) = sentences cs ++ List.replicate (n + 1) ['.'] := by
  have hstops : '.' ∉ blanks := fun hmem => absurd (hblank _ hmem) (by decide)
  obtain ⟨front, rfl⟩ := List.getLast?_eq_some_iff.mp hend
  have hempty : ((front.splitOn '.').rtakeWhile List.isEmpty).map sentence =
      List.replicate ((front.splitOn '.').rtakeWhile List.isEmpty).length ['.'] := by
    rw [List.eq_replicate_iff]
    refine ⟨List.length_map _, List.forall_mem_map.mpr fun segment hmem => ?_⟩
    rw [List.isEmpty_iff.mp (List.mem_rtakeWhile_imp hmem)]
    rfl
  refine ⟨((front.splitOn '.').rtakeWhile List.isEmpty).length, ?_⟩
  calc sentences (front ++ ['.'] ++ blanks)
      = (front.splitOn '.').map sentence ++ [['.']] := by
        rw [sentences_eq, List.append_assoc, List.singleton_append,
          segments_of_last hstops hne, List.map_append, List.map_singleton,
          sentence_of_blank hblank]
    _ = ((front.splitOn '.').rdropWhile List.isEmpty).map sentence ++
          (((front.splitOn '.').rtakeWhile List.isEmpty).map sentence ++ [['.']]) := by
        rw [← List.append_assoc, ← List.map_append, List.rdropWhile_append_rtakeWhile]
    _ = sentences (front ++ ['.']) ++
          List.replicate (((front.splitOn '.').rtakeWhile List.isEmpty).length + 1) ['.'] := by
        rw [hempty, sentences_eq, segments_of_stop, List.replicate_succ']

end

end AbapNaming.Remark
