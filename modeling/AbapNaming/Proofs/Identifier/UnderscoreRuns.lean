import AbapNaming.Proofs.Identifier.InterfaceName

/-! # Runs of underscores

Spaces, punctuation and the underscores of a title all come out as underscores, so runs of them may
be of any mixture. The cut comes before they are collapsed, and may go through a run. What is left
has one underscore for each run of the cut text, and no two side by side.
-/

namespace AbapNaming.InterfaceName

/-- The text in pieces: underscores that stand together are one piece, however many they are, and
each other character is one. -/
structure SplitsAtRuns (pieces : List (List Char)) (cs : List Char) : Prop where
  flatten_eq : pieces.flatten = cs
  uniform : ∀ piece ∈ pieces, (∃ c, c ≠ '_' ∧ piece = [c]) ∨ ∃ n, piece = List.replicate (n + 1) '_'
  /-- A run goes on as far as there are underscores. -/
  maximal : pieces.IsChain fun a b => ¬ ('_' ∈ a ∧ '_' ∈ b)

theorem exists_splitsAtRuns (cs : List Char) : ∃ pieces, SplitsAtRuns pieces cs := by
  induction cs with
  | nil => exact ⟨[], rfl, by simp, .nil⟩
  | cons c cs ih =>
    obtain ⟨pieces, hflatten, huniform, hmaximal⟩ := ih
    by_cases hrun : c = '_' ∧ ∃ piece ∈ pieces.head?, '_' ∈ piece
    · -- The run that comes next begins one character earlier.
      obtain ⟨rfl, piece, hpiece, hunderscore⟩ := hrun
      obtain ⟨rest, rfl⟩ := List.head?_eq_some_iff.mp hpiece
      obtain ⟨hfirst, hrest⟩ := List.forall_mem_cons.mp huniform
      obtain ⟨hnext, hchain⟩ := List.isChain_cons.mp hmaximal
      refine ⟨('_' :: piece) :: rest, by simp [← hflatten], List.forall_mem_cons.mpr ⟨?_, hrest⟩,
        List.isChain_cons.mpr ⟨fun next hmem hboth => ?_, hchain⟩⟩
      · rcases hfirst with ⟨d, hd, rfl⟩ | ⟨n, rfl⟩
        · exact absurd (List.mem_singleton.mp hunderscore).symm hd
        · exact .inr ⟨n + 1, rfl⟩
      · exact hnext next hmem ⟨hunderscore, hboth.2⟩
    · refine ⟨[c] :: pieces, by simp [hflatten], List.forall_mem_cons.mpr ⟨?_, huniform⟩,
        List.isChain_cons.mpr ⟨fun next hmem hboth => ?_, hmaximal⟩⟩
      · by_cases hc : c = '_'
        · exact .inr ⟨0, by rw [hc]; rfl⟩
        · exact .inl ⟨c, hc, rfl⟩
      · exact hrun ⟨(List.mem_singleton.mp hboth.1).symm, next, hmem, hboth.2⟩

theorem collapse_replicate (n : Nat) (cs : List Char) :
    collapse true (List.replicate n '_' ++ cs) = collapse true cs := by
  induction n with
  | zero => rfl
  | succ n ih => simp [List.replicate_succ, collapse, ih]

/-- One character is kept of each piece, unless the first is a run that goes on from before. -/
theorem collapse_flatten (after : Bool) {pieces : List (List Char)}
    (huniform : ∀ piece ∈ pieces,
      (∃ c, c ≠ '_' ∧ piece = [c]) ∨ ∃ n, piece = List.replicate (n + 1) '_')
    (hmaximal : pieces.IsChain fun a b => ¬ ('_' ∈ a ∧ '_' ∈ b))
    (hhead : after = true → ∀ piece ∈ pieces.head?, '_' ∉ piece) :
    collapse after pieces.flatten = pieces.filterMap List.head? := by
  induction pieces generalizing after with
  | nil => rfl
  | cons piece pieces ih =>
    obtain ⟨hpiece, hpieces⟩ := List.forall_mem_cons.mp huniform
    obtain ⟨hnext, hchain⟩ := List.isChain_cons.mp hmaximal
    rcases hpiece with ⟨c, hc, rfl⟩ | ⟨n, rfl⟩
    · have hrest := ih false hpieces hchain nofun
      simp [collapse, hc, hrest]
    · have hfresh : after = false := by
        by_contra h
        exact hhead (by simpa using h) _ rfl (by simp)
      have hrest := ih true hpieces hchain
        fun _ next hmem hunderscore => hnext next hmem ⟨by simp, hunderscore⟩
      simp [hfresh, List.replicate_succ, collapse, collapse_replicate, hrest]

theorem SplitsAtRuns.collapse_eq {pieces : List (List Char)} {cs : List Char}
    (h : SplitsAtRuns pieces cs) : collapse false cs = pieces.filterMap List.head? := by
  rw [← h.flatten_eq, collapse_flatten false h.uniform h.maximal nofun]

/-- The interface name is no longer than the cap, it holds neither spaces nor capitals nor
punctuation nor underscores side by side, and it is the cut snake form of the title with one
underscore for each run of them, those that were punctuation included. -/
theorem format_isTidy_splitsAtRuns (maxLength : Nat) (title : String) :
    (format maxLength title).length ≤ maxLength ∧
    (∀ c ∈ (format maxLength title).toList, c ≠ ' ' ∧ c.isUpper = false ∧ c ∉ punctuation) ∧
    ¬ ['_', '_'] <:+: (format maxLength title).toList ∧
    ∃ pieces, SplitsAtRuns pieces (((Snake.ofSentence title).toList.take maxLength).map fun c =>
        if c ∈ punctuation then '_' else c) ∧
      (format maxLength title).toList = pieces.filterMap List.head? := by
  have hchars : (format maxLength title).toList = chars maxLength title.toList :=
    String.toList_ofList
  have htidy := isTidy_chars maxLength title.toList
  obtain ⟨pieces, hpieces⟩ := exists_splitsAtRuns
    (((Snake.ofSentence title).toList.take maxLength).map plainChar)
  rw [← String.length_toList, hchars]
  refine ⟨length_chars_le maxLength _, ?_, ?_, pieces, hpieces, ?_⟩
  · intro c hc
    obtain ⟨hspace, hlower⟩ := htidy.settled c hc
    exact ⟨hspace, Text.isUpper_eq_false_of_lowerChar hlower, htidy.plain c hc⟩
  · intro hpair
    have happart := htidy.apart.infix hpair
    simp at happart
  · rw [← hpieces.collapse_eq, Snake.ofSentence, String.toList_ofList]
    rfl

/-- The cut goes through a run, of which one underscore is left. -/
example : format 5 "My -/- App" = "my_" := by decide +kernel

end AbapNaming.InterfaceName
