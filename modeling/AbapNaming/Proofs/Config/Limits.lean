import Mathlib.Data.List.Basic
import AbapNaming.Config.Format

/-! # Which settings pass

The settings that pass are those that can be used. Others have a problem, except for those with a
cut so long that its sum with the suffix is no word: on them the check panics.
-/

namespace AbapNaming

structure Limits.AreWords (l : Limits) : Prop where
  max : l.maxLength < Word.bound
  trim : l.trimLength < Word.bound
  globalMax : l.globalMaxLength < Word.bound
  descriptionMax : l.descriptionMaxLength < Word.bound

namespace NamingSettings

/-- What is asked of settings beside the room for the suffix. -/
structure Complete (s : NamingSettings) : Prop where
  trim_pos : 1 ≤ s.limits.trimLength
  globalMax_pos : 1 ≤ s.limits.globalMaxLength
  descriptionMax_pos : 1 ≤ s.limits.descriptionMaxLength
  spelling_ne_empty : ∀ e ∈ s.replacements, e.2 ≠ ""
  words_nodup : (s.replacements.map fun e => lowercase e.1).Nodup

/-- A name that is cut stays within the longest one. -/
structure Usable (s : NamingSettings) : Prop extends s.Complete where
  room : s.limits.trimLength + suffixWidth ≤ s.limits.maxLength

end NamingSettings

theorem sortedByKey_perm {α : Type} (l : KeyedList α) : (sortedByKey l).Perm l :=
  List.mergeSort_perm l _

/-- The scan stops at an empty spelling and at a word that was there before, with letter case aside. -/
theorem replacementProblem?_eq_none_iff {seen words : KeyedList String} :
    replacementProblem? seen words = none ↔
      (∀ e ∈ words, e.2 ≠ "") ∧ (words.map fun e => lowercase e.1).Nodup ∧
        ∀ e ∈ words, lowercase e.1 ∉ seen.keys := by
  induction words generalizing seen with
  | nil => simp [replacementProblem?]
  | cons e words ih =>
    obtain ⟨word, spelling⟩ := e
    rw [replacementProblem?]
    by_cases hempty : spelling = ""
    · simp [hempty]
    · rw [if_neg (by simpa using hempty)]
      cases hseen : seen.get? (lowercase word) with
      | some earlier =>
        have hmem : lowercase word ∈ seen.keys := by
          by_contra hnew
          rw [KeyedList.get?_eq_none_iff.mpr hnew] at hseen
          cases hseen
        simp [hmem]
      | none =>
        have hnotMem := KeyedList.get?_eq_none_iff.mp hseen
        simp only [ih]
        simp only [KeyedList.keys, List.map_cons, List.mem_cons, List.nodup_cons,
          List.mem_map, not_or] at hnotMem ⊢
        grind

namespace NamingSettings

theorem problem?_of_lt {s : NamingSettings}
    (h : s.limits.trimLength + suffixWidth < Word.bound) :
    s.problem? = .ok (
      if s.limits.trimLength = 0 then some .trimLengthZero
      else if s.limits.maxLength < s.limits.trimLength + suffixWidth then
        some (.trimLengthTooLong s.limits.trimLength s.limits.maxLength)
      else if s.limits.globalMaxLength = 0 then some .globalMaxLengthZero
      else if s.limits.descriptionMaxLength = 0 then some .descriptionMaxLengthZero
      else replacementProblem? [] (sortedByKey s.replacements)) := by
  rw [problem?, Word.add_of_lt h, apply_ite Except.ok]
  rfl

/-- The sum is made for every cut but zero, which is no part of a sum that is too large. -/
theorem problem?_of_le {s : NamingSettings}
    (h : Word.bound ≤ s.limits.trimLength + suffixWidth) : s.problem? = .error .overflow := by
  have hbound : suffixWidth < Word.bound := by decide
  have htrim : s.limits.trimLength ≠ 0 := by omega
  rw [problem?, Word.add_of_le h]
  exact if_neg htrim

theorem problem?_eq_panic_iff (s : NamingSettings) :
    s.problem? = .error .overflow ↔ Word.bound ≤ s.limits.trimLength + suffixWidth := by
  refine ⟨fun h => ?_, problem?_of_le⟩
  by_contra hfits
  rw [problem?_of_lt (Nat.not_le.mp hfits)] at h
  cases h

theorem problem?_eq_none_iff (s : NamingSettings) :
    s.problem? = .ok none ↔ s.Usable ∧ s.limits.trimLength + suffixWidth < Word.bound := by
  have hwords : replacementProblem? [] (sortedByKey s.replacements) = none ↔
      (∀ e ∈ s.replacements, e.2 ≠ "") ∧ (s.replacements.map fun e => lowercase e.1).Nodup := by
    have hperm := sortedByKey_perm s.replacements
    simp only [replacementProblem?_eq_none_iff, hperm.mem_iff, (hperm.map _).nodup_iff]
    simp [KeyedList.keys]
  constructor
  · intro h
    have hfits : s.limits.trimLength + suffixWidth < Word.bound := by
      by_contra hbeyond
      rw [problem?_of_le (Nat.not_lt.mp hbeyond)] at h
      cases h
    rw [problem?_of_lt hfits, Except.ok.injEq] at h
    split_ifs at h with htrim hroom hglobal hdescription
    obtain ⟨hspelt, hapart⟩ := hwords.mp h
    exact ⟨⟨⟨Nat.pos_of_ne_zero htrim, Nat.pos_of_ne_zero hglobal,
      Nat.pos_of_ne_zero hdescription, hspelt, hapart⟩, Nat.le_of_not_lt hroom⟩, hfits⟩
  · rintro ⟨h, hfits⟩
    rw [problem?_of_lt hfits, if_neg (Nat.ne_of_gt h.trim_pos), if_neg (Nat.not_lt.mpr h.room),
      if_neg (Nat.ne_of_gt h.globalMax_pos), if_neg (Nat.ne_of_gt h.descriptionMax_pos)]
    exact congrArg _ (hwords.mpr ⟨h.spelling_ne_empty, h.words_nodup⟩)

/-- The longest name is a word, and so is all that stays within it. -/
theorem Usable.lt_bound {s : NamingSettings} (h : s.Usable) (hwords : s.limits.AreWords) :
    s.limits.trimLength + suffixWidth < Word.bound :=
  Nat.lt_of_le_of_lt h.room hwords.max

end NamingSettings

namespace Config

/-- A setting has whatever the default has and every value that is read. -/
theorem setting_spec {α : Type} (P : α → Prop) {entries : Toml.Entries} {name : String}
    {read : Toml.Value → Option α} {default a : α} (h : setting entries name read default = some a)
    (hdefault : P default) (hread : ∀ v a, read v = some a → P a) : P a := by
  rw [setting] at h
  split at h
  · rwa [← Option.some.inj h]
  · exact hread _ a h

theorem length?_lt {v : Toml.Value} {n : Nat} (h : length? v = some n) : n < Word.bound := by
  unfold length? at h
  split at h
  · split_ifs at h with hword
    rw [← Option.some.inj h]
    exact hword.2
  · cases h

theorem length_setting_lt {entries : Toml.Entries} {name : String} {default n : Nat}
    (h : setting entries name length? default = some n) (hdefault : default < Word.bound) :
    n < Word.bound :=
  setting_spec (· < Word.bound) h hdefault fun _ _ => length?_lt

theorem areWords_of_naming? {v : Toml.Value} {s : NamingSettings} (h : naming? v = some s) :
    s.limits.AreWords := by
  simp only [naming?, bind, Option.bind_eq_some_iff, pure] at h
  obtain ⟨entries, -, max, hmax, trim, htrim, globalMax, hglobalMax, descriptionMax,
    hdescriptionMax, words, -, replacements, -, hs⟩ := h
  rw [← Option.some.inj hs]
  exact ⟨length_setting_lt hmax (by decide), length_setting_lt htrim (by decide),
    length_setting_lt hglobalMax (by decide), length_setting_lt hdescriptionMax (by decide)⟩

theorem areWords_of_ofEntries? {entries : Toml.Entries} {c : Config}
    (h : ofEntries? entries = some c) : c.naming.limits.AreWords := by
  simp only [ofEntries?, bind, Option.bind_eq_some_iff, pure] at h
  obtain ⟨tables, -, generator, -, naming, hnaming, hc⟩ := h
  rw [← Option.some.inj hc]
  exact setting_spec (·.limits.AreWords) hnaming ⟨by decide, by decide, by decide, by decide⟩
    fun _ _ => areWords_of_naming?

end Config

/-- Settings whose limits are words pass exactly if they can be used. The check of any settings
panics exactly if the sum of the cut and the suffix is no word. The limits of a text are words, so
it is accepted, or its check panics, under the same conditions. -/
theorem NamingSettings.passes_iff (s : NamingSettings) :
    (s.limits.AreWords → (s.problem? = .ok none ↔ s.Usable)) ∧
    (s.problem? = .error .overflow ↔ Word.bound ≤ s.limits.trimLength + suffixWidth) ∧
    ∀ text c, (Toml.parse text).bind Config.ofEntries? = some c → c.naming = s →
      s.limits.AreWords ∧
      (Config.ofToml text = .ok { c with naming := s.normalized } ↔ s.Usable) ∧
      (Config.ofToml text = .error (.panic .overflow) ↔
        Word.bound ≤ s.limits.trimLength + suffixWidth) := by
  have hpass (hwords : s.limits.AreWords) : s.problem? = .ok none ↔ s.Usable := by
    rw [problem?_eq_none_iff, and_iff_left_of_imp fun h => h.lt_bound hwords]
  refine ⟨hpass, s.problem?_eq_panic_iff, ?_⟩
  rintro text c hread rfl
  obtain ⟨entries, -, hentries⟩ := Option.bind_eq_some_iff.mp hread
  have hwords := Config.areWords_of_ofEntries? hentries
  refine ⟨hwords, ?_⟩
  rw [← hpass hwords, ← problem?_eq_panic_iff]
  simp only [Config.ofToml, hread]
  rcases c.naming.problem? with cause | _ | problem
  · exact ⟨iff_of_false nofun nofun, by simp⟩
  · exact ⟨iff_of_true rfl rfl, iff_of_false nofun nofun⟩
  · exact ⟨iff_of_false nofun nofun, iff_of_false nofun nofun⟩

theorem NamingSettings.passes_shortNames :
    let text := "[naming]\nmax_length = 16\ntrim_length = 12\nreserved_mappings.DATA = 'dat'\n"
    let c : Config := { naming := {
      limits := { maxLength := 16, trimLength := 12 }
      replacements := [("DATA", "dat")] } }
    (Toml.parse text).bind Config.ofEntries? = some c ∧ c.naming.Usable ∧
    c.naming.problem? = .ok none ∧ c.naming.problem? ≠ .error .overflow ∧
    Config.ofToml text = .ok { c with naming := c.naming.normalized } := by
  intro text c
  have hread : (Toml.parse text).bind Config.ofEntries? = some c := by decide +kernel
  have husable : c.naming.Usable :=
    ⟨⟨by decide, by decide, by decide, by decide, List.pairwise_singleton _ _⟩, by decide⟩
  obtain ⟨hsettings, hpanics, htexts⟩ := passes_iff c.naming
  obtain ⟨hwords, haccepted, -⟩ := htexts text c hread rfl
  exact ⟨hread, husable, (hsettings hwords).mpr husable,
    fun h => absurd (hpanics.mp h) (by decide), haccepted.mpr husable⟩

/-- The longest cut that a word holds is no problem that could be told: the check panics. -/
theorem Config.ofToml_longestCut :
    let text := "[naming]\ntrim_length = 18446744073709551615\n"
    let c : Config := { naming := { limits := { trimLength := 18446744073709551615 } } }
    (Toml.parse text).bind Config.ofEntries? = some c ∧ c.naming.limits.AreWords ∧
    c.naming.limits.maxLength < c.naming.limits.trimLength + suffixWidth ∧ ¬ c.naming.Usable ∧
    Word.add c.naming.limits.trimLength suffixWidth = .error .overflow ∧
    Config.ofToml text = .error (.panic .overflow) := by
  intro text c
  have hread : (Toml.parse text).bind Config.ofEntries? = some c := by decide +kernel
  have hlong : c.naming.limits.maxLength < c.naming.limits.trimLength + suffixWidth := by decide
  have hpanics : c.naming.problem? = .error .overflow :=
    c.naming.problem?_eq_panic_iff.mpr (by decide)
  refine ⟨hread, ⟨by decide, by decide, by decide, by decide⟩, hlong,
    fun h => absurd h.room (Nat.not_le.mpr hlong), Word.add_of_le (by decide), ?_⟩
  simp only [ofToml, hread, hpanics]

end AbapNaming
