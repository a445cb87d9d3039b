import AbapNaming.Proofs.Config.Spellings
import AbapNaming.Proofs.Naming.Answers

/-! # The order of spellings does not matter

The spellings of settings come in any order, but their keys are all different. So there is only one
order by key, in which they are looked at for problems and then reserved. Hence the order in which
they come decides neither which of several problems is told and where, nor what becomes of any name.
-/

namespace AbapNaming

open KeyedList

theorem sortedByKey_eq_of_perm {α : Type} {l l' : KeyedList α} (h : l.Perm l')
    (hkeys : (keys l).Nodup) : sortedByKey l = sortedByKey l' := by
  have hsorted (l : KeyedList α) :
      (sortedByKey l).Pairwise fun a b => decide (¬ b.1 < a.1) = true := by
    refine List.pairwise_mergeSort (fun a b c hab hbc => ?_) (fun a b => ?_) l
    · simp only [decide_eq_true_eq, not_lt] at hab hbc ⊢
      exact le_trans hab hbc
    · simp only [Bool.or_eq_true, decide_eq_true_eq, not_lt]
      exact le_total a.1 b.1
  have hperm : (sortedByKey l).Perm (sortedByKey l') :=
    (sortedByKey_perm l).trans (h.trans (sortedByKey_perm l').symm)
  refine hperm.eq_of_pairwise (fun a b ha hb hab hba => ?_) (hsorted l) (hsorted l')
  have hkey : a.1 = b.1 := by
    simp only [decide_eq_true_eq, not_lt] at hab hba
    exact le_antisymm hab hba
  have ha' : a ∈ l := (sortedByKey_perm l).mem_iff.mp ha
  have hb' : b ∈ l := h.mem_iff.mpr ((sortedByKey_perm l').mem_iff.mp hb)
  exact List.inj_on_of_nodup_map hkeys ha' hb' hkey

theorem sortedByKey_of_pairwise {α : Type} {l : KeyedList α}
    (h : l.Pairwise fun a b => ¬ b.1 < a.1) : sortedByKey l = l :=
  List.mergeSort_of_pairwise (h.imp decide_eq_true)

namespace NamingSettings

/-- The same settings with their spellings in another order. -/
structure Reorders (s s' : NamingSettings) : Prop where
  limits_eq : s'.limits = s.limits
  words_eq : s'.reservedWords = s.reservedWords
  perm : s.replacements.Perm s'.replacements
  keys_nodup : (keys s.replacements).Nodup

namespace Reorders

variable {s s' s'' : NamingSettings}

theorem symm (h : s.Reorders s') : s'.Reorders s where
  limits_eq := h.limits_eq.symm
  words_eq := h.words_eq.symm
  perm := h.perm.symm
  keys_nodup := (perm_keys h.perm).nodup_iff.mp h.keys_nodup

theorem trans (h : s.Reorders s') (h' : s'.Reorders s'') : s.Reorders s'' where
  limits_eq := h'.limits_eq.trans h.limits_eq
  words_eq := h'.words_eq.trans h.words_eq
  perm := h.perm.trans h'.perm
  keys_nodup := h.keys_nodup

theorem sortedByKey_eq (h : s.Reorders s') :
    sortedByKey s'.replacements = sortedByKey s.replacements :=
  (sortedByKey_eq_of_perm h.perm h.keys_nodup).symm

theorem problem?_eq (h : s.Reorders s') : s'.problem? = s.problem? := by
  simp only [problem?, h.limits_eq, h.sortedByKey_eq]

theorem start_eq (h : s.Reorders s') : s'.start = s.start := by
  rw [start, start, reserved, reserved, h.limits_eq, h.words_eq, h.sortedByKey_eq]

theorem normalized (h : s.Reorders s') (hpass : s.problem? = .ok none) :
    s.normalized.Reorders s'.normalized where
  limits_eq := h.limits_eq
  words_eq := congrArg (List.map lowercase) h.words_eq
  perm := h.perm.map _
  keys_nodup := nodup_keys_normalized hpass

end Reorders

/-- Settings that differ in the order of their spellings have the same problem, told in the same
words and at the same place of a text, if they have any. If they have none, they have the same
spellings in lowercase. A run with either gives the same answers, and so does a run with the
settings in lowercase, in whatever order these have their spellings. -/
theorem reorders_indistinguishable {s s' : NamingSettings} (h : s.Reorders s') :
    s'.problem? = s.problem? ∧
    (∀ text, s'.problem?.map (Option.map fun p => (p.message, p.span? text)) =
      s.problem?.map (Option.map fun p => (p.message, p.span? text))) ∧
    (s.problem? = .ok none → s.normalized.Reorders s'.normalized ∧
      ∀ word, s'.normalized.replacements.get? word = s.normalized.replacements.get? word) ∧
    (∀ calls c, (s'.start.after calls).answer c = (s.start.after calls).answer c) ∧
    (s.problem? = .ok none → ∀ m m', s.normalized.Reorders m → s'.normalized.Reorders m' →
      ∀ calls c, (m'.start.after calls).answer c = (m.start.after calls).answer c) := by
  refine ⟨h.problem?_eq, fun text => by rw [h.problem?_eq], fun hpass => ?_, ?_, ?_⟩
  · have hlower := h.normalized hpass
    exact ⟨hlower, fun word => (get?_eq_of_perm hlower.perm hlower.keys_nodup word).symm⟩
  · intro calls c
    rw [h.start_eq]
  · intro hpass m m' hm hm' calls c
    have hruns : m.Reorders m' := hm.symm.trans ((h.normalized hpass).trans hm')
    rw [hruns.start_eq]

/-- Three keys that are one word, the last one without a spelling, and two keys that are fine. -/
theorem reorders_indistinguishable_data :
    let text := "[naming.reserved_mappings]\ndata = ''\nData = 'd'\nDATA = 'dat'\n"
    let bad : NamingSettings := { replacements := [("DATA", "dat"), ("Data", "d"), ("data", "")] }
    let bad' : NamingSettings := { replacements := [("data", ""), ("Data", "d"), ("DATA", "dat")] }
    let good : NamingSettings := { replacements := [("DATA", "dat"), ("type", "kind")] }
    let good' : NamingSettings := { replacements := [("type", "kind"), ("DATA", "dat")] }
    let answer (s : NamingSettings) := (s.start.after [.edit "type" ""]).answer (.edit "Data" "")
    bad.Reorders bad' ∧
    bad'.problem?.map (Option.map fun p => (p.message, p.span? text)) =
      .ok (some ("reserved mappings 'DATA' and 'Data' differ only in case", some ⟨37, 4⟩)) ∧
    good.Reorders good' ∧ good'.problem? = .ok none ∧
    good'.normalized.replacements.get? "data" = some "dat" ∧
    answer good' = .identifier ⟨"_data", false, true⟩ ∧
    answer good'.normalized = .identifier ⟨"dat", false, true⟩ := by
  intro text bad bad' good good' answer
  have hbad : bad.Reorders bad' := ⟨rfl, rfl, by decide +kernel, by decide +kernel⟩
  have hgood : good.Reorders good' := ⟨rfl, rfl, by decide +kernel, by decide +kernel⟩
  have hsorted (l : KeyedList String) (h : l.Pairwise fun a b => ¬ b.1 < a.1) :
      ({ replacements := l } : NamingSettings).start =
        Naming.start {} (Reserved.addReplacements ⟨abapKeywords, []⟩ l) := by
    rw [start, reserved, sortedByKey_of_pairwise h, Reserved.addWords_nil, Reserved.abap_eq]
  have hproblem : bad.problem? = .ok (some (.sameWord "DATA" "Data")) := by
    simp only [problem?, sortedByKey_of_pairwise (l := bad.replacements) (by decide +kernel)]
    decide +kernel
  have hpass : good.problem? = .ok none :=
    good.problem?_eq_none_iff.mpr
      ⟨⟨⟨by decide, by decide, by decide, by decide, by decide +kernel⟩, by decide⟩, by decide⟩
  obtain ⟨-, hbadTold, -, -, -⟩ := reorders_indistinguishable hbad
  obtain ⟨hgoodProblem, -, hlower, hanswer, hlowerAnswer⟩ := reorders_indistinguishable hgood
  obtain ⟨hgoodLower, hget⟩ := hlower hpass
  refine ⟨hbad, (hbadTold text).trans ?_, hgood, hgoodProblem.trans hpass,
    (hget "data").trans (by decide +kernel), (hanswer _ _).trans ?_,
    (hlowerAnswer hpass _ _ (hgoodLower.trans hgoodLower.symm)
      (hgoodLower.symm.trans hgoodLower) _ _).trans ?_⟩
  · rw [hproblem]
    decide +kernel
  · rw [hsorted _ (by decide +kernel)]
    decide +kernel
  · have hstart : good.normalized.start = _ := hsorted _ (by decide +kernel)
    rw [hstart]
    decide +kernel

end NamingSettings

end AbapNaming
