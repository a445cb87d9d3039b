import AbapNaming.Identifier.Snake
import AbapNaming.Proofs.PathTemplate.Template
import AbapNaming.Proofs.Text.Lowercase

/-! # Snake case makes no braces and no spaces

No letter has a brace or a space for its lowercase form, and all else that snake case puts in is
underscores. So the braces of a snake form are those of the name, and the spaces of the name have
become underscores. What the second pass has made it leaves alone when it is made again.
-/

namespace AbapNaming

open PathTemplate

namespace Text

/-- Characters that no letter is lowered to. -/
def marks : List Char := [' ', openBrace, closeBrace]

theorem lowerRuns_apart : ∀ r ∈ lowerRuns, ∀ n ∈ marks.map Char.toNat,
    n < r.target ∨ r.target + (r.last - r.first) < n := by
  decide +kernel

theorem toLower_mark {c : Char} (h : c.toLower ∈ marks) : c.toLower = c := by
  by_contra hchange
  have hupper : c.isUpper = true := not_not.mp (mt toLower_of_not_isUpper hchange)
  have hsmall : ∀ b ∈ marks, b.toNat < 0x61 ∨ 0x7A < b.toNat := by
    simp [marks, openBrace, closeBrace]
  have hmark := hsmall _ h
  have hrange := isUpper_bounds hupper
  rw [toNat_toLower hupper] at hmark
  omega

theorem toNat_mark_pos : ∀ n ∈ marks.map Char.toNat, 0 < n := by decide

/-- Only a mark is lowered to a mark. -/
theorem eq_of_mark_mem_lowerChar {b c : Char} (hb : b ∈ marks) (h : b ∈ lowerChar c) : c = b := by
  rcases mem_lowerChar_cases h with ⟨-, rfl⟩ | ⟨-, hdotted⟩ | ⟨r, hr, hcovers, rfl⟩ | ⟨-, rfl⟩
  · exact (toLower_mark hb).symm
  · simp only [List.mem_cons, List.not_mem_nil, or_false] at hdotted
    rcases hdotted with rfl | rfl <;> exact absurd hb (by decide)
  · have hnumber := List.mem_map_of_mem (f := Char.toNat) hb
    have hapart := lowerRuns_apart r hr _ hnumber
    have hpositive := toNat_mark_pos _ hnumber
    have hlast := hcovers.2.1
    rcases toNat_ofNat (r.image c.toNat) with himage | himage
    · rw [himage, CaseRun.image] at hapart
      omega
    · omega
  · rfl

theorem mark_mem_of_lowerAfter {b : Char} (hb : b ∈ marks) (before : List Char) {cs : List Char}
    (h : b ∈ lowerAfter before cs) : b ∈ cs := by
  induction cs generalizing before with
  | nil => exact h
  | cons c cs ih =>
    rw [lowerAfter, List.mem_append] at h
    rcases h with hhead | htail
    · by_cases hsigma : c = capitalSigma
      · rw [if_pos hsigma, List.mem_singleton] at hhead
        split at hhead <;> subst hhead <;> exact absurd hb (by decide)
      · rw [if_neg hsigma] at hhead
        rw [eq_of_mark_mem_lowerChar hb hhead]
        exact List.mem_cons_self
    · exact List.mem_cons_of_mem _ (ih _ htail)

end Text

namespace Snake

open Text

theorem mark_mem_of_splitHumps {b : Char} (hb : b ∈ marks) (inRun : Bool) {cs : List Char}
    (h : b ∈ splitHumps inRun cs) : b ∈ cs := by
  induction cs generalizing inRun with
  | nil => exact h
  | cons c cs ih =>
    have hrest (run : Bool) (h : b ∈ c :: splitHumps run cs) : b ∈ c :: cs :=
      List.mem_cons.mpr ((List.mem_cons.mp h).imp_right (ih run))
    have hunderscore : b ≠ '_' := by
      rintro rfl
      exact absurd hb (by decide)
    rw [splitHumps] at h
    split at h
    · exact hrest true h
    · split at h
      · simp only [List.mem_cons, hunderscore, false_or] at h
        exact hrest true (List.mem_cons.mpr h)
      · exact hrest false h

/-- The second pass leaves no space. -/
theorem mark_mem_of_sentenceChars {b : Char} (hb : b ∈ marks) {cs : List Char}
    (h : b ∈ sentenceChars cs) : b ∈ cs ∧ b ≠ ' ' := by
  obtain ⟨c, hc, h⟩ := List.mem_flatMap.mp h
  by_cases hspace : c = ' '
  · rw [if_pos hspace, List.mem_singleton] at h
    subst h
    exact absurd hb (by decide)
  · rw [if_neg hspace] at h
    obtain rfl := eq_of_mark_mem_lowerChar hb h
    exact ⟨hc, hspace⟩

/-- Nothing is left for the second pass to change. -/
theorem settled_of_mem_sentenceChars {d : Char} {cs : List Char} (h : d ∈ sentenceChars cs) :
    d ≠ ' ' ∧ lowerChar d = [d] := by
  refine ⟨?_, ?_⟩
  · rintro rfl
    exact (mark_mem_of_sentenceChars (by decide) h).2 rfl
  · obtain ⟨c, -, hd⟩ := List.mem_flatMap.mp h
    by_cases hspace : c = ' '
    · rw [if_pos hspace, List.mem_singleton] at hd
      rw [hd]
      decide
    · rw [if_neg hspace] at hd
      exact lowerChar_of_mem hd

theorem sentenceChars_eq_self {cs : List Char} (h : ∀ c ∈ cs, c ≠ ' ' ∧ lowerChar c = [c]) :
    sentenceChars cs = cs := by
  have hchar : ∀ c ∈ cs, (if c = ' ' then ['_'] else lowerChar c) = [c] := fun c hc => by
    rw [if_neg (h c hc).1, (h c hc).2]
  rw [sentenceChars, List.flatMap_congr hchar, List.flatMap_singleton']

theorem space_notMem_ofName (name : String) : ' ' ∉ (ofName name).toList := by
  intro h
  rw [ofName, String.toList_ofList] at h
  exact (mark_mem_of_sentenceChars (by decide) h).2 rfl

theorem isPlain_ofName {name : String} (h : IsPlain name.toList) :
    IsPlain (ofName name).toList := by
  have hback : ∀ b ∈ marks, b ∈ (ofName name).toList → b ∈ name.toList := by
    intro b hb hmem
    rw [ofName, String.toList_ofList] at hmem
    exact mark_mem_of_splitHumps hb false
      (mark_mem_of_lowerAfter hb [] (mark_mem_of_sentenceChars hb hmem).1)
  exact ⟨mt (hback _ (by decide)) h.1, mt (hback _ (by decide)) h.2⟩

end Snake

end AbapNaming
