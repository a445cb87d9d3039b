import Mathlib.Data.List.TakeWhile
import Mathlib.Data.Nat.Init
import AbapNaming.Proofs.Identifier.Snake

/-! # Humps, match by match and all at once

A hump is a small letter with a capital right behind it. The first pass goes from match to match: a
small letter with all capitals behind it is one match, and what it has taken is not looked at again.
No hump is lost by that, since none begins at a capital. So the underscores stand at the humps of
the text as it is given, and a text in snake case has no humps left.
-/

namespace AbapNaming.Snake

/-- The second text is the first with an underscore in each match of a small letter and capitals
behind it. Matches are taken from the left, are as long as they can be and do not overlap. -/
inductive PartsMatches : List Char → List Char → Prop
  | nil : PartsMatches [] []
  | here {small : Char} {capitals rest parted : List Char} (hsmall : small.isLower = true)
      (hne : capitals ≠ []) (hcapitals : ∀ c ∈ capitals, c.isUpper = true)
      (hend : ∀ c ∈ rest.head?, c.isUpper = false) (hrest : PartsMatches rest parted) :
      PartsMatches (small :: (capitals ++ rest)) (small :: '_' :: (capitals ++ parted))
  /-- A character at which no match begins is passed. -/
  | step {c : Char} {cs parted : List Char}
      (hnone : ¬ (c.isLower = true ∧ ∃ d ∈ cs.head?, d.isUpper = true))
      (hrest : PartsMatches cs parted) : PartsMatches (c :: cs) (c :: parted)

def isHump (cs : List Char) (i : Nat) : Bool :=
  cs[i]?.any Char.isLower && cs[i + 1]?.any Char.isUpper

/-- The text with one underscore in the middle of each hump. -/
def atHumps (cs : List Char) : List Char :=
  (cs.mapIdx fun i c => if isHump cs i then [c, '_'] else [c]).flatten

theorem startsCapital_eq (cs : List Char) : startsCapital cs = cs.head?.any Char.isUpper := by
  cases cs <;> rfl

theorem startsCapital_iff (cs : List Char) :
    startsCapital cs = true ↔ ∃ d ∈ cs.head?, d.isUpper = true := by
  rw [startsCapital_eq, Option.any_eq_true]
  rfl

theorem isLower_eq_false_of_isUpper {c : Char} (h : c.isUpper = true) : c.isLower = false := by
  have hlast : c.toNat < 'a'.toNat := Nat.lt_of_le_of_lt (Text.isUpper_bounds h).2 (by decide)
  exact Bool.and_eq_false_iff.mpr
    (.inl (decide_eq_false (UInt32.not_le.mpr (UInt32.lt_iff_toNat_lt.mpr hlast))))

theorem atHumps_cons (c : Char) (cs : List Char) :
    atHumps (c :: cs) =
      (if (c.isLower && startsCapital cs) = true then [c, '_'] else [c]) ++ atHumps cs := by
  have hfirst : isHump (c :: cs) 0 = (c.isLower && startsCapital cs) := by
    rw [isHump, startsCapital_eq, List.head?_eq_getElem?]
    rfl
  have hlater (i : Nat) : isHump (c :: cs) (i + 1) = isHump cs i := rfl
  simp only [atHumps, List.mapIdx_cons, List.flatten_cons, hfirst, hlater]

theorem atHumps_cons_of_hump {c d : Char} (hc : c.isLower = true) (hd : d.isUpper = true)
    (cs : List Char) : atHumps (c :: d :: cs) = c :: '_' :: atHumps (d :: cs) := by
  rw [atHumps_cons, if_pos (by simp [hc, startsCapital, hd])]
  rfl

theorem atHumps_cons_of_not_hump {c : Char} {cs : List Char}
    (h : ¬ (c.isLower = true ∧ ∃ d ∈ cs.head?, d.isUpper = true)) :
    atHumps (c :: cs) = c :: atHumps cs := by
  rw [← startsCapital_iff, ← Bool.and_eq_true] at h
  rw [atHumps_cons, if_neg h]
  rfl

theorem atHumps_capitals {capitals : List Char} (h : ∀ c ∈ capitals, c.isUpper = true)
    (rest : List Char) : atHumps (capitals ++ rest) = capitals ++ atHumps rest := by
  induction capitals with
  | nil => rfl
  | cons c capitals ih =>
    obtain ⟨hc, hcapitals⟩ := List.forall_mem_cons.mp h
    have hnone : ¬ (c.isLower = true ∧ ∃ d ∈ (capitals ++ rest).head?, d.isUpper = true) := by
      simp [isLower_eq_false_of_isUpper hc]
    rw [List.cons_append, atHumps_cons_of_not_hump hnone, ih hcapitals, List.cons_append]

theorem atHumps_match {small : Char} {capitals : List Char} (hsmall : small.isLower = true)
    (hne : capitals ≠ []) (hcapitals : ∀ c ∈ capitals, c.isUpper = true) (rest : List Char) :
    atHumps (small :: (capitals ++ rest)) = small :: '_' :: (capitals ++ atHumps rest) := by
  obtain ⟨d, later, rfl⟩ := List.exists_cons_of_ne_nil hne
  rw [← atHumps_capitals hcapitals]
  exact atHumps_cons_of_hump hsmall (hcapitals d List.mem_cons_self) (later ++ rest)

/-- Where a run of capitals has its underscore already, the next hump is still behind it. -/
theorem splitHumps_eq (inRun : Bool) (cs : List Char) : splitHumps inRun cs = atHumps cs := by
  induction cs generalizing inRun with
  | nil => rfl
  | cons c cs ih =>
    rw [splitHumps, atHumps_cons, ih, ih]
    split_ifs with hrun hhump hhump'
    · have hupper := (Bool.and_eq_true _ _ ▸ hrun).2
      simp [isLower_eq_false_of_isUpper hupper] at hhump
    · rfl
    · rfl
    · rfl

theorem PartsMatches.eq_atHumps {cs parted : List Char} (h : PartsMatches cs parted) :
    parted = atHumps cs := by
  induction h with
  | nil => rfl
  | here hsmall hne hcapitals _ _ ih => rw [atHumps_match hsmall hne hcapitals, ih]
  | step hnone _ ih => rw [atHumps_cons_of_not_hump hnone, ih]

theorem partsMatches_atHumps (cs : List Char) : PartsMatches cs (atHumps cs) := by
  induction hlength : cs.length using Nat.strong_induction_on generalizing cs with
  | h n ih =>
    cases cs with
    | nil => exact .nil
    | cons c cs =>
      rw [List.length_cons] at hlength
      by_cases hhump : c.isLower = true ∧ ∃ d ∈ cs.head?, d.isUpper = true
      · obtain ⟨hc, d, hd, hupper⟩ := hhump
        obtain ⟨cs, rfl⟩ := List.head?_eq_some_iff.mp hd
        -- The match takes the capitals that are there, and the rest is shorter.
        have hsplit : (d :: cs).takeWhile Char.isUpper ++ (d :: cs).dropWhile Char.isUpper =
            d :: cs := List.takeWhile_append_dropWhile
        have hcapitals : ∀ e ∈ (d :: cs).takeWhile Char.isUpper, e.isUpper = true :=
          fun e he => List.mem_takeWhile_imp he
        have hne : (d :: cs).takeWhile Char.isUpper ≠ [] := by simp [hupper]
        have hend : ∀ e ∈ ((d :: cs).dropWhile Char.isUpper).head?, e.isUpper = false := by
          intro e he
          have hstop := List.head?_dropWhile_not Char.isUpper (d :: cs)
          rwa [Option.mem_def.mp he] at hstop
        have hshorter := congrArg List.length hsplit
        rw [List.length_append] at hshorter
        have hrest := ih _ (by omega) ((d :: cs).dropWhile Char.isUpper) rfl
        have hmatch := PartsMatches.here hc hne hcapitals hend hrest
        rwa [← atHumps_match hc hne hcapitals, hsplit] at hmatch
      · rw [atHumps_cons_of_not_hump hhump]
        exact .step hhump (ih cs.length (by omega) cs rfl)

/-- The matches one after the other are the humps. -/
theorem partsMatches_iff {cs parted : List Char} :
    PartsMatches cs parted ↔ parted = atHumps cs :=
  ⟨PartsMatches.eq_atHumps, fun h => h ▸ partsMatches_atHumps cs⟩

theorem atHumps_eq_self {cs : List Char} (h : ∀ c ∈ cs, c.isUpper = false) : atHumps cs = cs := by
  induction cs with
  | nil => rfl
  | cons c cs ih =>
    obtain ⟨-, hcs⟩ := List.forall_mem_cons.mp h
    have hnone : ¬ (c.isLower = true ∧ ∃ d ∈ cs.head?, d.isUpper = true) := by
      rintro ⟨-, d, hd, hupper⟩
      exact absurd (hcs d (List.mem_of_head? hd)) (by simp [hupper])
    rw [atHumps_cons_of_not_hump hnone, ih hcs]

/-- A text in snake case stays as it is. -/
theorem nameChars_nameChars (cs : List Char) : nameChars (nameChars cs) = nameChars cs := by
  have hsettled : ∀ c ∈ nameChars cs, c ≠ ' ' ∧ Text.lowerChar c = [c] :=
    fun c hc => settled_of_mem_sentenceChars hc
  have hflat : ∀ c ∈ nameChars cs, c.isUpper = false := fun c hc =>
    Text.isUpper_eq_false_of_lowerChar (hsettled c hc).2
  calc nameChars (nameChars cs)
      = sentenceChars (Text.lower (atHumps (nameChars cs))) := by
        rw [nameChars, camelChars, splitHumps_eq]
    _ = sentenceChars (Text.lower (nameChars cs)) := by rw [atHumps_eq_self hflat]
    _ = sentenceChars (nameChars cs) := by
        rw [Text.lower, Text.lowerAfter_eq_self [] fun c hc => (hsettled c hc).2]
    _ = nameChars cs := sentenceChars_eq_self hsettled

/-- Parting a text match by match puts an underscore into each of its humps and nowhere else, and
the first pass lowers what comes of that. The snake form of a name has neither capitals nor spaces,
and it is its own snake form. -/
theorem ofName_isCanonical (name : String) :
    (∀ parted, PartsMatches name.toList parted ↔ parted = atHumps name.toList) ∧
    ofCamel name = String.ofList (Text.lower (atHumps name.toList)) ∧
    (∀ c ∈ (ofName name).toList, c.isUpper = false ∧ c ≠ ' ') ∧
    ofName (ofName name) = ofName name := by
  refine ⟨fun parted => partsMatches_iff, ?_, ?_, ?_⟩
  · rw [ofCamel, camelChars, splitHumps_eq]
  · intro c hc
    rw [ofName, String.toList_ofList] at hc
    obtain ⟨hspace, hlower⟩ := settled_of_mem_sentenceChars hc
    exact ⟨Text.isUpper_eq_false_of_lowerChar hlower, hspace⟩
  · rw [ofName, ofName, String.toList_ofList, nameChars_nameChars]

end AbapNaming.Snake
