import AbapNaming.Proofs.Naming.Calls

/-! # Which identifiers coincide

Without chosen spellings there are two ways for different candidates to become one identifier. A
candidate that is kept whole may be spelt like the short form of one that was cut, and one that is
not escaped may be spelt like an escaped one behind its underscore. Nothing else ever coincides,
wherever in a run the two edits stand.
-/

namespace AbapNaming

theorem Reserved.escape_of_no_replacements {r : Reserved} (h : r.replacements = []) (s : String) :
    r.escape s = "_" ++ s := by
  apply String.toList_injective
  rw [escape, h]
  simp

namespace Naming

/-- Is the candidate escaped, once it is cut to length? -/
def escapes (n : Naming) (whole : String) : Bool := n.reserved.mustEscape (n.fitted whole)

/-- What a candidate becomes. -/
def identified (n : Naming) (whole : String) : String :=
  if n.escapes whole then n.reserved.escape (n.fitted whole) else n.fitted whole

/-- What a state makes of a name in a role. -/
def identifier (n : Naming) (role : Role) (name : String) : String :=
  n.identified (candidate name role.tag)

/-- The second candidate is kept whole and spelt like the short form of the first, which is cut. -/
def MeetsCut (n : Naming) (cut kept : String) : Prop :=
  n.isLong cut = true ∧ n.isLong kept = false ∧ kept = n.fitted cut

/-- The second candidate is not escaped and spelt like the first one behind its underscore. -/
def MeetsEscaped (n : Naming) (escaped plain : String) : Prop :=
  n.escapes escaped = true ∧ n.escapes plain = false ∧ n.fitted plain = "_" ++ n.fitted escaped

/-- The candidates become one identifier although they differ. -/
def Merges (n : Naming) (a b : String) : Prop :=
  (n.escapes a = n.escapes b ∧ (n.MeetsCut a b ∨ n.MeetsCut b a)) ∨
    n.MeetsEscaped a b ∨ n.MeetsEscaped b a

instance (n : Naming) (a b : String) : Decidable (n.MeetsCut a b) :=
  inferInstanceAs (Decidable (_ ∧ _ ∧ _))

instance (n : Naming) (a b : String) : Decidable (n.MeetsEscaped a b) :=
  inferInstanceAs (Decidable (_ ∧ _ ∧ _))

instance (n : Naming) (a b : String) : Decidable (n.Merges a b) :=
  inferInstanceAs (Decidable ((_ ∧ (_ ∨ _)) ∨ _ ∨ _))

theorem Extends.identifier_eq {n n' : Naming} {role : Role} {name : String}
    (h : (n.edit name role.tag).2.Extends n') : n'.identifier role name = n.identifier role name :=
  congrArg Edited.value h.edit_eq_of_edited

theorem candidate_inj {a b tag : String} :
    candidate a tag = candidate b tag ↔ Snake.ofName a = Snake.ofName b := by
  rw [candidate, candidate, String.append_right_inj]

theorem identifier_congr (n : Naming) (role : Role) {a b : String}
    (h : Snake.ofName a = Snake.ofName b) : n.identifier role a = n.identifier role b := by
  rw [identifier, identifier, candidate_inj.mpr h]

section

variable {n : Naming} {a b : String}

theorem MeetsCut.fitted_eq (h : n.MeetsCut a b) : n.fitted a = n.fitted b := by
  rw [fitted_of_short h.2.1, h.2.2]

theorem identified_of_escapes (h : n.escapes a = true) :
    n.identified a = n.reserved.escape (n.fitted a) := by
  rw [identified, if_pos h]

theorem identified_of_plain (h : n.escapes a = false) : n.identified a = n.fitted a := by
  rw [identified, h, if_neg Bool.false_ne_true]

/-- Two short forms are told apart by the buckets, and two candidates that are kept whole are
what they are. -/
theorem fitted_eq_iff (hkeyed : n.buckets.Keyed) (ha : n.Holds a) :
    n.fitted a = n.fitted b ↔ a = b ∨ n.MeetsCut a b ∨ n.MeetsCut b a := by
  constructor
  · intro h
    cases hlonga : n.isLong a with
    | true =>
      cases hlongb : n.isLong b with
      | true =>
        rw [fitted_of_long hlonga, fitted_of_long hlongb] at h
        exact .inl (hkeyed.eq_of_shortForm_eq (ha hlonga) h)
      | false =>
        rw [fitted_of_short hlongb] at h
        exact .inr (.inl ⟨hlonga, hlongb, h.symm⟩)
    | false =>
      rw [fitted_of_short hlonga] at h
      cases hlongb : n.isLong b with
      | true => exact .inr (.inr ⟨hlongb, hlonga, h⟩)
      | false =>
        rw [fitted_of_short hlongb] at h
        exact .inl h
  · rintro (rfl | h | h)
    · rfl
    · exact h.fitted_eq
    · exact h.fitted_eq.symm

theorem MeetsEscaped.identified_eq (hplain : n.reserved.replacements = [])
    (h : n.MeetsEscaped a b) : n.identified a = n.identified b := by
  obtain ⟨hescaped, hkept, hspelt⟩ := h
  rw [identified_of_escapes hescaped, identified_of_plain hkept,
    Reserved.escape_of_no_replacements hplain, hspelt]

theorem identified_eq_iff_of_escapes_eq (hplain : n.reserved.replacements = [])
    (h : n.escapes a = n.escapes b) : n.identified a = n.identified b ↔ n.fitted a = n.fitted b := by
  cases hb : n.escapes b with
  | true =>
    rw [identified_of_escapes (h.trans hb), identified_of_escapes hb,
      Reserved.escape_of_no_replacements hplain, Reserved.escape_of_no_replacements hplain,
      String.append_right_inj]
  | false => rw [identified_of_plain (h.trans hb), identified_of_plain hb]

/-- Identifiers of which one is escaped coincide exactly where the other one is spelt like it. -/
theorem identified_eq_iff_of_escapes_ne (hplain : n.reserved.replacements = [])
    (h : n.escapes a ≠ n.escapes b) :
    n.identified a = n.identified b ↔ n.MeetsEscaped a b ∨ n.MeetsEscaped b a := by
  constructor
  · intro heq
    cases ha : n.escapes a with
    | true =>
      have hb : n.escapes b = false := by simpa [ha] using h.symm
      rw [identified_of_escapes ha, identified_of_plain hb,
        Reserved.escape_of_no_replacements hplain] at heq
      exact .inl ⟨ha, hb, heq.symm⟩
    | false =>
      have hb : n.escapes b = true := by simpa [ha] using h.symm
      rw [identified_of_escapes hb, identified_of_plain ha,
        Reserved.escape_of_no_replacements hplain] at heq
      exact .inr ⟨hb, ha, heq⟩
  · rintro (hmeets | hmeets)
    · exact hmeets.identified_eq hplain
    · exact (hmeets.identified_eq hplain).symm

theorem identified_eq_iff (hkeyed : n.buckets.Keyed) (hplain : n.reserved.replacements = [])
    (ha : n.Holds a) : n.identified a = n.identified b ↔ a = b ∨ n.Merges a b := by
  by_cases h : n.escapes a = n.escapes b
  · have hne : ¬ (n.MeetsEscaped a b ∨ n.MeetsEscaped b a) := by
      rintro (⟨ha, hb, -⟩ | ⟨hb, ha, -⟩) <;> simp [ha, hb] at h
    rw [identified_eq_iff_of_escapes_eq hplain h, fitted_eq_iff hkeyed ha, Merges, or_iff_left hne,
      and_iff_right h]
  · have hab : a ≠ b := fun hab => h (congrArg n.escapes hab)
    have hcut : ¬ (n.escapes a = n.escapes b ∧ (n.MeetsCut a b ∨ n.MeetsCut b a)) :=
      fun hcut => h hcut.1
    rw [identified_eq_iff_of_escapes_ne hplain h, Merges, or_iff_right hab, or_iff_right hcut]

/-- Candidates that are cut alike and escaped alike never merge. -/
theorem not_merges_of_alike (hlong : n.isLong a = n.isLong b) (hescapes : n.escapes a = n.escapes b) :
    ¬ n.Merges a b := by
  rintro (⟨-, ⟨ha, hb, -⟩ | ⟨hb, ha, -⟩⟩ | ⟨ha, hb, -⟩ | ⟨hb, ha, -⟩)
  · simp [ha, hb] at hlong
  · simp [ha, hb] at hlong
  · simp [ha, hb] at hescapes
  · simp [ha, hb] at hescapes

end

end Naming

namespace Editing

/-- The first edit cut its candidate, and that of the second, kept whole, is the key and the
number that came of it. -/
def CutInto (x y : Editing) : Prop :=
  x.outcome.truncated = true ∧ y.outcome.truncated = false ∧
    y.whole = x.state.buckets.key x.whole ++ suffix (x.state.buckets.position x.whole)

/-- The first edit escaped its candidate, and that of the second, not escaped, has the underscore
already. -/
def EscapedInto (x y : Editing) : Prop :=
  x.outcome.escaped = true ∧ y.outcome.escaped = false ∧ y.short = "_" ++ x.short

section

variable {n : Naming} {x y : Editing}

theorem isLong_eq_truncated (hx : x.next.Extends n) : n.isLong x.whole = x.outcome.truncated :=
  congrArg Edited.truncated (Naming.outcome_of_extends hx)

theorem escapes_eq_escaped (hx : x.next.Extends n) : n.escapes x.whole = x.outcome.escaped :=
  congrArg Edited.escaped (Naming.outcome_of_extends hx)

theorem identified_eq_value (hx : x.next.Extends n) : n.identified x.whole = x.outcome.value :=
  congrArg Edited.value (Naming.outcome_of_extends hx)

theorem meetsCut_iff (hx : x.next.Extends n) (hy : y.next.Extends n) :
    n.MeetsCut x.whole y.whole ↔ x.CutInto y := by
  rw [Naming.MeetsCut, CutInto, isLong_eq_truncated hx, isLong_eq_truncated hy,
    Naming.fitted_of_extends hx]
  refine and_congr_right fun hcut => ?_
  have hshort : x.short = x.state.buckets.shortForm x.whole := Naming.fitted_of_long hcut
  rw [hshort, Buckets.shortForm]

theorem meetsEscaped_iff (hx : x.next.Extends n) (hy : y.next.Extends n) :
    n.MeetsEscaped x.whole y.whole ↔ x.EscapedInto y := by
  rw [Naming.MeetsEscaped, EscapedInto, escapes_eq_escaped hx, escapes_eq_escaped hy,
    Naming.fitted_of_extends hx, Naming.fitted_of_extends hy]

end

/-- Two edits of a run, at any points of it, give the same identifier exactly if their candidates
are the same, or one is spelt like the other's short form and both or neither are escaped, or one
is spelt like the other's escaped form. Edits that cut and escaped alike never meet otherwise. -/
theorem edits_value_eq_iff (limits : Limits) (words : List String) (calls : List Call) {x y : Editing}
    (hx : x ∈ (Naming.start limits ⟨words, []⟩).editings calls)
    (hy : y ∈ (Naming.start limits ⟨words, []⟩).editings calls) :
    (x.outcome.value = y.outcome.value ↔
      x.whole = y.whole ∨
      (x.outcome.escaped = y.outcome.escaped ∧ (x.CutInto y ∨ y.CutInto x)) ∨
      x.EscapedInto y ∨ y.EscapedInto x) ∧
    (x.outcome.truncated = y.outcome.truncated → x.outcome.escaped = y.outcome.escaped →
      x.outcome.value = y.outcome.value → x.whole = y.whole) := by
  have hx := Naming.extends_of_mem_editings hx
  have hy := Naming.extends_of_mem_editings hy
  have hkeyed := Naming.keyed_after_start limits ⟨words, []⟩ calls
  have hplain : ((Naming.start limits ⟨words, []⟩).after calls).reserved.replacements = [] := by
    rw [(Naming.extends_after _ calls).reserved_eq]
    rfl
  have hmerges := Naming.identified_eq_iff hkeyed hplain (Naming.holds_of_extends hx) (b := y.whole)
  rw [identified_eq_value hx, identified_eq_value hy] at hmerges
  constructor
  · rw [hmerges, Naming.Merges, escapes_eq_escaped hx, escapes_eq_escaped hy, meetsCut_iff hx hy,
      meetsCut_iff hy hx, meetsEscaped_iff hx hy, meetsEscaped_iff hy hx]
  · intro htruncated hescaped hvalue
    rw [← isLong_eq_truncated hx, ← isLong_eq_truncated hy] at htruncated
    rw [← escapes_eq_escaped hx, ← escapes_eq_escaped hy] at hescaped
    exact (hmerges.mp hvalue).resolve_right (Naming.not_merges_of_alike htruncated hescaped)

def cramped : Naming := Naming.start { maxLength := 5, trimLength := 2 } ⟨["data"], []⟩

def crampedCalls : List Call :=
  [.edit "abcdef" "", .path "/rooms/\x7babcdeg\x7d", .intern "Pet" "ty_", .edit "ab000" "",
    .path "/rooms/\x7b", .edit "data" "", .edit "_data" ""]

/-- A name that is kept whole meets one that was cut, and a plain one meets one that was escaped,
with other calls between. -/
theorem edits_value_eq_cramped :
    let cut : Editing := ⟨cramped, "abcdef", ""⟩
    let kept : Editing := ⟨cramped.after (crampedCalls.take 3), "ab000", ""⟩
    let escaped : Editing := ⟨cramped.after (crampedCalls.take 5), "data", ""⟩
    let plain : Editing := ⟨cramped.after (crampedCalls.take 6), "_data", ""⟩
    (∀ x ∈ [cut, kept, escaped, plain], x ∈ cramped.editings crampedCalls) ∧
    cut.outcome.value = kept.outcome.value ∧ escaped.outcome.value = plain.outcome.value ∧
    cut.outcome.value ≠ plain.outcome.value := by
  intro cut kept escaped plain
  have hmem : ∀ x ∈ [cut, kept, escaped, plain], x ∈ cramped.editings crampedCalls := by
    decide +kernel
  have hiff (x y : Editing) (hx : x ∈ [cut, kept, escaped, plain])
      (hy : y ∈ [cut, kept, escaped, plain]) :=
    (edits_value_eq_iff _ _ _ (hmem x hx) (hmem y hy)).1
  refine ⟨hmem, ?_, ?_, ?_⟩
  · refine (hiff cut kept (by simp) (by simp)).mpr (.inr (.inl ⟨?_, .inl ⟨?_, ?_, ?_⟩⟩))
    all_goals decide +kernel
  · refine (hiff escaped plain (by simp) (by simp)).mpr (.inr (.inr (.inl ⟨?_, ?_, ?_⟩)))
    all_goals decide +kernel
  · refine mt (hiff cut plain (by simp) (by simp)).mp ?_
    simp only [CutInto, EscapedInto]
    decide +kernel

end Editing

end AbapNaming
