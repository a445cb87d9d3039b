import AbapNaming.Proofs.Config.Limits
import AbapNaming.Proofs.KeyedList
import AbapNaming.Proofs.Naming.Collisions

/-! # Spellings chosen in the settings

Settings that pass have no two keys that are one word in lowercase. So every spelling of a text
stands in the settings of the run, under the lowercase form of its key. A name that comes down to
such a key is spelt that way, be it a keyword, a word of the settings or one that starts badly. Only
words without a spelling get the underscore, and all else is left alone.
-/

namespace AbapNaming

open KeyedList

namespace Reserved

variable {r : Reserved} {spellings : KeyedList String}

theorem addReplacements_cons (r : Reserved) (e : String × String) (spellings : KeyedList String) :
    r.addReplacements (e :: spellings) = (r.addReplacement e.1 e.2).addReplacements spellings := rfl

theorem mem_words_addReplacements {word : String} :
    word ∈ (r.addReplacements spellings).words ↔ word ∈ r.words ∨ word ∈ keys spellings := by
  induction spellings generalizing r with
  | nil => simp [addReplacements_nil, keys]
  | cons e spellings ih =>
    have hword : (r.addReplacement e.1 e.2).words = (r.addWord e.1).words := rfl
    rw [addReplacements_cons, ih, hword, mem_words_addWord, or_assoc]
    exact or_congr_right List.mem_cons.symm

theorem get?_addReplacements (h : (keys spellings).Nodup) (word : String) :
    (r.addReplacements spellings).replacements.get? word =
      (spellings.get? word).or (r.replacements.get? word) := by
  induction spellings generalizing r with
  | nil => rfl
  | cons e spellings ih =>
    obtain ⟨hnew, hrest⟩ := List.nodup_cons.mp h
    have hadded : (r.addReplacement e.1 e.2).replacements = r.replacements.insert e.1 e.2 := rfl
    rw [addReplacements_cons, ih hrest, hadded, get?_insert, get?_cons]
    by_cases hword : e.1 = word
    · subst hword
      rw [if_pos rfl, if_pos rfl, get?_eq_none_iff.mpr hnew]
      rfl
    · rw [if_neg hword, if_neg hword]

end Reserved

namespace NamingSettings

/-- Settings reserve the keywords, their own words and those that they choose a spelling for. -/
theorem mem_words_reserved_iff (s : NamingSettings) {word : String} :
    word ∈ s.reserved.words ↔
      word ∈ abapKeywords ∨ word ∈ s.reservedWords ∨ word ∈ keys s.replacements := by
  have hkeys := (perm_keys (sortedByKey_perm s.replacements)).mem_iff (a := word)
  rw [reserved, Reserved.mem_words_addReplacements, Reserved.mem_words_addWords, Reserved.abap_eq,
    hkeys, or_assoc]

/-- A run looks spellings up as the settings have them. -/
theorem get?_replacements_reserved {s : NamingSettings} (h : (keys s.replacements).Nodup)
    (word : String) : s.reserved.replacements.get? word = s.replacements.get? word := by
  have hperm := sortedByKey_perm s.replacements
  have hsorted : (keys (sortedByKey s.replacements)).Nodup := (perm_keys hperm).nodup_iff.mpr h
  have hplain : (Reserved.abap.addWords s.reservedWords).replacements = [] := by
    rw [Reserved.replacements_addWords, Reserved.abap_eq]
  rw [reserved, Reserved.get?_addReplacements hsorted, hplain, get?_nil, Option.or_none,
    get?_eq_of_perm hperm hsorted]

end NamingSettings

namespace Naming

theorem escapes_of_mem {n : Naming} {whole : String} (h : n.fitted whole ∈ n.reserved.words) :
    n.escapes whole = true :=
  Bool.or_eq_true_iff.mpr (.inl (decide_eq_true h))

variable {n : Naming} {s : NamingSettings} (hreserved : n.reserved = s.reserved)
  (hkeys : (keys s.replacements).Nodup) {whole : String}

include hreserved hkeys

/-- A chosen spelling is what becomes of its word, whatever the word is otherwise. -/
theorem identified_of_spelling {spelling : String}
    (h : (n.fitted whole, spelling) ∈ s.replacements) : n.identified whole = spelling := by
  have hword : n.fitted whole ∈ n.reserved.words := by
    rw [hreserved, s.mem_words_reserved_iff]
    exact .inr (.inr (mem_keys_of_mem h))
  rw [identified_of_escapes (escapes_of_mem hword), Reserved.escape, hreserved,
    NamingSettings.get?_replacements_reserved hkeys, (get?_eq_some_iff_of_nodup hkeys).mpr h,
    Option.getD_some]

variable (hplain : n.fitted whole ∉ keys s.replacements)

include hplain

theorem identified_of_word (h : n.fitted whole ∈ abapKeywords ∨ n.fitted whole ∈ s.reservedWords) :
    n.identified whole = "_" ++ n.fitted whole := by
  have hword : n.fitted whole ∈ n.reserved.words := by
    rw [hreserved, s.mem_words_reserved_iff]
    exact h.imp_right .inl
  rw [identified_of_escapes (escapes_of_mem hword), Reserved.escape, hreserved,
    NamingSettings.get?_replacements_reserved hkeys, get?_eq_none_iff.mpr hplain, Option.getD_none]
  exact String.toList_injective (by simp)

omit hkeys in
theorem identified_of_free (hkeyword : n.fitted whole ∉ abapKeywords)
    (hword : n.fitted whole ∉ s.reservedWords)
    (hstart : Reserved.startsBadly (n.fitted whole).toList = false) :
    n.identified whole = n.fitted whole := by
  have hfree : n.fitted whole ∉ n.reserved.words := by
    rw [hreserved, s.mem_words_reserved_iff]
    exact fun h => h.elim hkeyword fun h => h.elim hword hplain
  exact identified_of_plain (Bool.or_eq_false_iff.mpr ⟨decide_eq_false hfree, hstart⟩)

end Naming

namespace NamingSettings

theorem keys_normalized (s : NamingSettings) :
    keys s.normalized.replacements = s.replacements.map fun e => lowercase e.1 := List.map_map

/-- Without a problem no two keys fall together. -/
theorem nodup_keys_normalized {s : NamingSettings} (h : s.problem? = .ok none) :
    (keys s.normalized.replacements).Nodup := by
  rw [keys_normalized]
  exact (s.problem?_eq_none_iff.mp h).1.words_nodup

theorem mem_normalized {s : NamingSettings} {word spelling : String}
    (h : (word, spelling) ∈ s.replacements) :
    (lowercase word, spelling) ∈ s.normalized.replacements :=
  List.mem_map.mpr ⟨_, h, rfl⟩

end NamingSettings

namespace Config

theorem source_of_ofToml {text : String} {c : Config} (h : ofToml text = .ok c) :
    ∃ source, (Toml.parse text).bind ofEntries? = some source ∧ source.naming.problem? = .ok none ∧
      c = { source with naming := source.naming.normalized } := by
  rw [ofToml] at h
  cases hread : (Toml.parse text).bind ofEntries? with
  | none =>
    rw [hread] at h
    cases h
  | some source =>
    rw [hread] at h
    rcases hproblem : source.naming.problem? with cause | _ | problem <;>
      simp only [hproblem] at h
    · cases h
    · exact ⟨source, rfl, hproblem, (Except.ok.inj h).symm⟩
    · cases h

theorem settings?_table {names : List String} {least : Nat} {origin : Toml.Origin}
    {entries given : Toml.Entries}
    (h : settings? names least (.table origin entries) = some given) : given = entries := by
  rw [settings?] at h
  split_ifs at h
  exact (Option.some.inj h).symm

theorem setting_of_get? {α : Type} {entries : Toml.Entries} {name : String} {v : Toml.Value}
    (h : entries.get? name = some v) (read : Toml.Value → Option α) (default : α) :
    setting entries name read default = read v := by
  rw [setting, h]

theorem spellings?_table {origin : Toml.Origin} {table : Toml.Entries}
    {spellings : KeyedList String} (h : spellings? (.table origin table) = some spellings) :
    table = spellings.map fun e => (e.1, .text e.2) := by
  rw [spellings?] at h
  induction table generalizing spellings with
  | nil =>
    rw [← Option.some.inj h]
    rfl
  | cons e table ih =>
    simp only [List.mapM_cons, bind, Option.bind_eq_some_iff, Option.map_eq_some_iff, pure] at h
    obtain ⟨_, ⟨spelling, hspelling, rfl⟩, rest, hrest, hs⟩ := h
    have htext : e.2 = .text spelling := by
      unfold text? at hspelling
      split at hspelling
      · rw [← Option.some.inj hspelling]
        assumption
      · cases hspelling
    rw [← Option.some.inj hs, List.map_cons, ← ih hrest, ← htext]

/-- Settings have the spellings of their table, whatever else is set. -/
theorem replacements_of_table {document naming table : Toml.Entries} {o o' : Toml.Origin}
    {c : Config} (h : ofEntries? document = some c)
    (hnaming : document.get? "naming" = some (.table o naming))
    (htable : naming.get? "reserved_mappings" = some (.table o' table)) :
    table = c.naming.replacements.map fun e => (e.1, .text e.2) := by
  simp only [ofEntries?, bind, Option.bind_eq_some_iff, pure] at h
  obtain ⟨tables, htables, _, -, settings, hsettings, hc⟩ := h
  rw [settings?_table htables, setting_of_get? hnaming] at hsettings
  simp only [naming?, bind, Option.bind_eq_some_iff, pure] at hsettings
  obtain ⟨entries, hentries, _, -, _, -, _, -, _, -, _, -, spellings, hspellings, hs⟩ := hsettings
  rw [settings?_table hentries, setting_of_get? htable] at hspellings
  rw [← Option.some.inj hc, ← Option.some.inj hs]
  exact spellings?_table hspellings

/-- A text that is accepted has been read into settings whose spellings are those of its table. The
settings of the run have exactly one spelling for each of them, under its key in lowercase. Whatever
was called before, a name that is cut to such a key is spelt that way; one that is cut to another
keyword or word of the settings gets an underscore; and one that is neither and does not start badly
stays as it is. -/
theorem ofToml_spellings {text : String} {c : Config} (h : ofToml text = .ok c) :
    ∃ source, (Toml.parse text).bind ofEntries? = some source ∧
      (∀ (document naming table : Toml.Entries) o o', Toml.parse text = some document →
        document.get? "naming" = some (.table o naming) →
        naming.get? "reserved_mappings" = some (.table o' table) →
        table = source.naming.replacements.map fun e => (e.1, .text e.2)) ∧
      c.naming.replacements = source.naming.replacements.map (fun e => (lowercase e.1, e.2)) ∧
      (keys c.naming.replacements).Nodup ∧
      (∀ word spelling, (word, spelling) ∈ source.naming.replacements →
        c.naming.replacements.get? (lowercase word) = some spelling) ∧
      ∀ calls name tag,
        let n := c.naming.start.after calls
        let short := n.fitted (Naming.candidate name tag)
        let value := (n.edit name tag).1.value
        (∀ word spelling, (word, spelling) ∈ source.naming.replacements → lowercase word = short →
          value = spelling) ∧
        (short ∉ source.naming.replacements.map (fun e => lowercase e.1) →
          (short ∈ abapKeywords ∨ short ∈ source.naming.reservedWords.map lowercase →
            value = "_" ++ short) ∧
          (short ∉ abapKeywords → short ∉ source.naming.reservedWords.map lowercase →
            Reserved.startsBadly short.toList = false → value = short)) := by
  obtain ⟨source, hread, hproblem, rfl⟩ := source_of_ofToml h
  have hkeys := NamingSettings.nodup_keys_normalized hproblem
  refine ⟨source, hread, ?_, rfl, hkeys, ?_, ?_⟩
  · intro document naming table o o' hdocument hnaming htable
    rw [hdocument] at hread
    exact replacements_of_table hread hnaming htable
  · intro word spelling hmem
    exact (get?_eq_some_iff_of_nodup hkeys).mpr (NamingSettings.mem_normalized hmem)
  · intro calls name tag n short value
    have hreserved : n.reserved = source.naming.normalized.reserved :=
      (Naming.extends_after _ calls).reserved_eq
    refine ⟨?_, fun hplain => ?_⟩
    · intro word spelling hmem hword
      have hspelt : (short, spelling) ∈ source.naming.normalized.replacements :=
        hword ▸ NamingSettings.mem_normalized hmem
      exact Naming.identified_of_spelling hreserved hkeys hspelt
    · rw [← NamingSettings.keys_normalized] at hplain
      exact ⟨Naming.identified_of_word hreserved hkeys hplain,
        Naming.identified_of_free hreserved hplain⟩

/-- A keyword, a word of the settings and a word that starts badly are spelt as chosen; another
keyword and another word of the settings are not, and any other name is left alone. -/
theorem ofToml_spellings_dat :
    let text := "[naming]\nreserved_words = ['Pet', 'ORDER']\n[naming.reserved_mappings]\n" ++
      "DATA = 'dat'\nPet = 'animal'\n1st = 'first'\n"
    let source : Config := { naming := {
      reservedWords := ["Pet", "ORDER"]
      replacements := [("DATA", "dat"), ("Pet", "animal"), ("1st", "first")] } }
    let c : Config := { source with naming := source.naming.normalized }
    let value (name : String) := ((c.naming.start.after [.edit "Pet" "ty_"]).edit name "").1.value
    ofToml text = .ok c ∧
    c.naming.replacements = [("data", "dat"), ("pet", "animal"), ("1st", "first")] ∧
    value "data" = "dat" ∧ value "Pet" = "animal" ∧ value "1st" = "first" ∧
    value "order" = "_order" ∧ value "type" = "_type" ∧ value "Kind" = "kind" := by
  intro text source c value
  have hread : (Toml.parse text).bind ofEntries? = some source := by decide +kernel
  have hproblem : source.naming.problem? = .ok none :=
    source.naming.problem?_eq_none_iff.mpr
      ⟨⟨⟨by decide, by decide, by decide, by decide, by decide +kernel⟩, by decide⟩, by decide⟩
  have haccepted : ofToml text = .ok c := by
    simp only [ofToml, hread, hproblem]
    rfl
  obtain ⟨source', hread', -, hreplacements, -, -, hedits⟩ := ofToml_spellings haccepted
  obtain rfl : source = source' := Option.some.inj (hread.symm.trans hread')
  have hedit (name : String) := hedits [.edit "Pet" "ty_"] name ""
  refine ⟨haccepted, hreplacements.trans (by decide +kernel), ?_, ?_, ?_, ?_, ?_, ?_⟩
  · exact (hedit "data").1 "DATA" "dat" (by decide) (by decide +kernel)
  · exact (hedit "Pet").1 "Pet" "animal" (by decide) (by decide +kernel)
  · exact (hedit "1st").1 "1st" "first" (by decide) (by decide +kernel)
  · exact ((hedit "order").2 (by decide +kernel)).1 (.inr (by decide +kernel))
  · exact ((hedit "type").2 (by decide +kernel)).1 (.inl (by decide +kernel))
  · exact ((hedit "Kind").2 (by decide +kernel)).2 (by decide +kernel) (by decide +kernel)
      (by decide +kernel)

end Config

end AbapNaming
