import AbapNaming.Config.Format
import AbapNaming.Proofs.Naming.Collisions

/-! # Identifiers that are reserved words

An underscore keeps a name from starting badly and from being a keyword, since no keyword starts
with one. What comes of it is not looked at again, so it may be a word that the settings reserve.
-/

namespace AbapNaming

namespace Reserved

theorem toList_escape_of_no_replacements {r : Reserved} (h : r.replacements = []) (s : String) :
    (r.escape s).toList = '_' :: s.toList := by
  rw [escape_of_no_replacements h, String.toList_append]
  rfl

theorem escape_notMem_abapKeywords {r : Reserved} (h : r.replacements = []) (s : String) :
    r.escape s ∉ abapKeywords := by
  intro hmem
  refine abapKeywords_head?_ne _ hmem ?_
  rw [toList_escape_of_no_replacements h]
  rfl

end Reserved

namespace Naming

variable {n : Naming} (hplain : n.reserved.replacements = [])

include hplain

theorem startsBadly_identified (whole : String) :
    Reserved.startsBadly (n.identified whole).toList = false := by
  cases hescapes : n.escapes whole with
  | true =>
    rw [identified_of_escapes hescapes, Reserved.toList_escape_of_no_replacements hplain]
    rfl
  | false =>
    rw [identified_of_plain hescapes]
    exact (Bool.or_eq_false_iff.mp hescapes).2

/-- What is not escaped is not reserved, so only an escaped name can be. -/
theorem contains_identified_iff (whole : String) :
    n.reserved.contains (n.identified whole) = true ↔
      n.escapes whole = true ∧ n.reserved.contains ("_" ++ n.fitted whole) = true := by
  cases hescapes : n.escapes whole with
  | true =>
    rw [identified_of_escapes hescapes, Reserved.escape_of_no_replacements hplain]
    exact (and_iff_right rfl).symm
  | false =>
    rw [identified_of_plain hescapes, (Bool.or_eq_false_iff.mp hescapes).1]
    simp

end Naming

/-- Whatever was called before under settings that choose no spelling, the identifier of a name does
not start badly. It is a reserved word exactly if the name was escaped and the settings reserve it
behind its underscore, so never if no word of the settings starts with an underscore. -/
theorem NamingSettings.edit_reserved_iff (s : NamingSettings) (hplain : s.replacements = [])
    (calls : List Call) (name tag : String) :
    let n := s.start.after calls
    let edited := (n.edit name tag).1
    Reserved.startsBadly edited.value.toList = false ∧
    (n.reserved.contains edited.value = true ↔
      edited.escaped = true ∧ "_" ++ n.fitted (Naming.candidate name tag) ∈ s.reservedWords) ∧
    ((∀ word ∈ s.reservedWords, word.toList.head? ≠ some '_') →
      n.reserved.contains edited.value = false) := by
  intro n edited
  have hreserved : n.reserved = s.reserved := (Naming.extends_after s.start calls).reserved_eq
  have hno : n.reserved.replacements = [] := by
    rw [hreserved]
    exact replacements_reserved hplain
  have hiff : n.reserved.contains edited.value = true ↔
      edited.escaped = true ∧ "_" ++ n.fitted (Naming.candidate name tag) ∈ s.reservedWords := by
    refine (Naming.contains_identified_iff hno _).trans (and_congr_right fun _ => ?_)
    have hword := Reserved.escape_notMem_abapKeywords hno (n.fitted (Naming.candidate name tag))
    rw [Reserved.escape_of_no_replacements hno] at hword
    rw [Reserved.contains, decide_eq_true_iff, hreserved, mem_words_reserved hplain,
      or_iff_right hword]
  refine ⟨Naming.startsBadly_identified hno _, hiff, fun hwords => ?_⟩
  rw [← Bool.not_eq_true, hiff]
  rintro ⟨-, hmem⟩
  exact hwords _ hmem (by simp)

/-- Only the keyword is escaped into a word of the settings; a word that they reserve themselves and
a name that was cut are not. -/
theorem NamingSettings.edit_reserved_ownWords :
    let s : NamingSettings :=
      { limits := { maxLength := 8, trimLength := 5 }, reservedWords := ["_data", "pet"] }
    let n := s.start.after [.edit "2ndOrder" "", .intern "Pet" "ty_"]
    let edited (name : String) := (n.edit name "").1
    s.replacements = [] ∧
    edited "data" = ⟨"_data", false, true⟩ ∧ n.reserved.contains (edited "data").value = true ∧
    edited "Pet" = ⟨"_pet", false, true⟩ ∧ n.reserved.contains (edited "Pet").value = false ∧
    edited "2ndOwner" = ⟨"_2nd_o001", true, true⟩ ∧
    Reserved.startsBadly (edited "2ndOwner").value.toList = false := by
  intro s n edited
  have hiff (name : String) := s.edit_reserved_iff rfl
    [.edit "2ndOrder" "", .intern "Pet" "ty_"] name ""
  have hstart : n = (Naming.start { maxLength := 8, trimLength := 5 }
      (Reserved.addWords ⟨abapKeywords, []⟩ ["_data", "pet"])).after
        [.edit "2ndOrder" "", .intern "Pet" "ty_"] :=
    congrArg (Naming.after · _) (NamingSettings.start_of_words _ _)
  have hdata : edited "data" = ⟨"_data", false, true⟩ := by
    simp only [edited, hstart]
    decide +kernel
  have hown : "_" ++ n.fitted (Naming.candidate "data" "") ∈ s.reservedWords := by
    rw [hstart]
    decide +kernel
  have hother : "_" ++ n.fitted (Naming.candidate "Pet" "") ∉ s.reservedWords := by
    rw [hstart]
    decide +kernel
  refine ⟨rfl, hdata, (hiff "data").2.1.mpr ⟨congrArg Edited.escaped hdata, hown⟩, ?_, ?_, ?_,
    (hiff "2ndOwner").1⟩
  · simp only [edited, hstart]
    decide +kernel
  · rw [← Bool.not_eq_true, (hiff "Pet").2.1]
    exact fun h => hother h.2
  · simp only [edited, hstart]
    decide +kernel

/-- The keyword is escaped into the word that the settings reserve. -/
theorem Config.ofToml_reservedUnderscore :
    let c : Config := { naming := { reservedWords := ["_data"] } }
    let n := c.naming.start
    Config.ofToml "[naming]\nreserved_words = ['_data']\n" = .ok c ∧ c.naming.replacements = [] ∧
    (n.edit "data" "").1 = ⟨"_data", false, true⟩ ∧ n.reserved.contains "_data" = true := by
  intro c n
  have hread : (Toml.parse "[naming]\nreserved_words = ['_data']\n").bind Config.ofEntries? =
      some c := by decide +kernel
  have hstart : n = Naming.start {} (Reserved.addWords ⟨abapKeywords, []⟩ ["_data"]) :=
    NamingSettings.start_of_words {} ["_data"]
  refine ⟨?_, rfl, ?_, ?_⟩
  · have hpass : c.naming.problem? = .ok none := by decide +kernel
    simp only [ofToml, hread, hpass]
    rfl
  · rw [hstart]
    decide +kernel
  · rw [hstart]
    decide +kernel

end AbapNaming
