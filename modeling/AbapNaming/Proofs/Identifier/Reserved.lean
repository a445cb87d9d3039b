import Mathlib.Data.String.Basic
import AbapNaming.Config.Basic

/-! # Reserved words of a plain run

The keywords are in strict order, so none is listed twice and reserving them one after the other
leaves the list as it is. That is all a run without settings reserves.
-/

namespace AbapNaming

namespace Reserved

theorem addWords_nil (r : Reserved) : r.addWords [] = r := rfl

theorem addReplacements_nil (r : Reserved) : r.addReplacements [] = r := rfl

theorem addWords_cons (r : Reserved) (word : String) (words : List String) :
    r.addWords (word :: words) = (r.addWord word).addWords words := rfl

theorem addWords_of_nodup {r : Reserved} {words : List String} (h : (r.words ++ words).Nodup) :
    r.addWords words = { r with words := r.words ++ words } := by
  induction words generalizing r with
  | nil => rw [List.append_nil]; rfl
  | cons word words ih =>
    have hnew : word ∉ r.words := fun hmem =>
      (List.nodup_append.mp h).2.2 word hmem word List.mem_cons_self rfl
    have hword : r.addWord word = { r with words := r.words ++ [word] } := by
      rw [addWord, if_neg hnew]
    have hrest : ((r.words ++ [word]) ++ words).Nodup := by
      rwa [List.append_assoc, List.singleton_append]
    rw [addWords_cons, hword, ih hrest, List.append_assoc, List.singleton_append]

theorem mem_words_addWord {r : Reserved} {word other : String} :
    word ∈ (r.addWord other).words ↔ word ∈ r.words ∨ word = other := by
  rw [addWord]
  split
  · rename_i hknown
    exact ⟨.inl, fun h => h.elim id fun hsame => hsame ▸ hknown⟩
  · exact List.mem_append.trans (or_congr_right List.mem_singleton)

theorem mem_words_addWords {r : Reserved} {words : List String} {word : String} :
    word ∈ (r.addWords words).words ↔ word ∈ r.words ∨ word ∈ words := by
  induction words generalizing r with
  | nil => simp [addWords_nil]
  | cons other words ih => rw [addWords_cons, ih, mem_words_addWord, List.mem_cons, or_assoc]

theorem replacements_addWords (r : Reserved) (words : List String) :
    (r.addWords words).replacements = r.replacements := by
  induction words generalizing r with
  | nil => rfl
  | cons word words ih =>
    rw [addWords_cons, ih, addWord]
    split <;> rfl

end Reserved

/-- Settings that choose no spelling reserve words alone. -/
theorem NamingSettings.replacements_reserved {s : NamingSettings} (h : s.replacements = []) :
    s.reserved.replacements = [] := by
  rw [reserved, h, sortedByKey, List.mergeSort_nil, Reserved.addReplacements_nil,
    Reserved.replacements_addWords, Reserved.abap, Reserved.replacements_addWords]
  rfl

theorem abapKeywords_sorted : abapKeywords.Pairwise (· < ·) := by
  have hchain : abapKeywords.IsChain (· < ·) := by decide +kernel
  exact hchain.pairwise

theorem abapKeywords_head?_ne : ∀ word ∈ abapKeywords, word.toList.head? ≠ some '_' := by
  decide +kernel

theorem Reserved.abap_eq : Reserved.abap = ⟨abapKeywords, []⟩ := by
  have hnodup : (empty.words ++ abapKeywords).Nodup := abapKeywords_sorted.imp ne_of_lt
  rw [abap, addWords_of_nodup hnodup, empty, List.nil_append]

/-- Settings that choose no spelling reserve the keywords and their own words. -/
theorem NamingSettings.mem_words_reserved {s : NamingSettings} (h : s.replacements = [])
    {word : String} : word ∈ s.reserved.words ↔ word ∈ abapKeywords ∨ word ∈ s.reservedWords := by
  rw [reserved, h, sortedByKey, List.mergeSort_nil, Reserved.addReplacements_nil,
    Reserved.mem_words_addWords, Reserved.abap_eq]

theorem NamingSettings.start_of_words (limits : Limits) (words : List String) :
    ({ limits, reservedWords := words } : NamingSettings).start =
      Naming.start limits (Reserved.addWords ⟨abapKeywords, []⟩ words) := by
  rw [start, reserved, sortedByKey, List.mergeSort_nil, Reserved.addReplacements_nil,
    Reserved.abap_eq]

theorem NamingSettings.reserved_default :
    ({} : NamingSettings).reserved = ⟨abapKeywords, []⟩ := by
  rw [reserved, sortedByKey, List.mergeSort_nil, Reserved.addWords_nil,
    Reserved.addReplacements_nil, Reserved.abap_eq]

theorem NamingSettings.start_default :
    ({} : NamingSettings).start = Naming.start {} ⟨abapKeywords, []⟩ := by
  rw [start, reserved_default]

end AbapNaming
