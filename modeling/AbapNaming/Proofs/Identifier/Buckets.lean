import Mathlib.Data.List.Basic
import AbapNaming.Editor
import AbapNaming.Proofs.Identifier.Suffix

/-! # Shortened names stay apart

Buckets only grow at their ends, so a name keeps its place and with it its short form. Two names
with places of their own never share a short form: a key that is shorter than the cut is the
whole name and has the number zero, and keys of full length end where the number begins.
-/

namespace AbapNaming.Buckets

/-- The names of each bucket begin with its key. -/
def Keyed (b : Buckets) : Prop := ∀ k, ∀ name ∈ b.members k, b.key name = k

def Holds (b : Buckets) (name : String) : Prop := name ∈ b.members (b.key name)

/-- Later buckets have the same keys and hold more names at the end. -/
structure Extends (b b' : Buckets) : Prop where
  trimLength_eq : b'.trimLength = b.trimLength
  members_prefix : ∀ k, b.members k <+: b'.members k

theorem Extends.refl (b : Buckets) : b.Extends b := ⟨rfl, fun _ => List.prefix_rfl⟩

theorem Extends.trans {a b c : Buckets} (hab : a.Extends b) (hbc : b.Extends c) : a.Extends c :=
  ⟨hbc.trimLength_eq.trans hab.trimLength_eq,
    fun k => (hab.members_prefix k).trans (hbc.members_prefix k)⟩

theorem Extends.key_eq {b b' : Buckets} (h : b.Extends b') (name : String) :
    b'.key name = b.key name := by
  rw [key, key, h.trimLength_eq]

theorem Extends.holds {b b' : Buckets} (h : b.Extends b') {name : String} (hn : b.Holds name) :
    b'.Holds name := by
  rw [Holds, h.key_eq]
  exact (h.members_prefix _).subset hn

theorem Extends.shortForm_eq {b b' : Buckets} (h : b.Extends b') {name : String}
    (hn : b.Holds name) : b'.shortForm name = b.shortForm name := by
  obtain ⟨later, hlater⟩ := h.members_prefix (b.key name)
  have hposition : b'.position name = b.position name := by
    rw [position, position, h.key_eq, ← hlater, List.idxOf_append_of_mem hn]
  rw [shortForm, shortForm, h.key_eq, hposition]

/-- A short form depends on the name's own bucket only. -/
theorem shortForm_congr {b b' : Buckets} {name : String}
    (htrim : b'.trimLength = b.trimLength)
    (hmembers : b'.members (b.key name) = b.members (b.key name)) :
    b'.shortForm name = b.shortForm name := by
  have hkey : b'.key name = b.key name := by rw [key, key, htrim]
  rw [shortForm, shortForm, position, position, hkey, hmembers]

@[simp] theorem key_add (b : Buckets) (name other : String) : (b.add name).key other = b.key other := by
  simp only [add]
  split <;> rfl

theorem members_add (b : Buckets) (name k : String) :
    (b.add name).members k =
      if b.key name = k ∧ name ∉ b.members k then b.members k ++ [name] else b.members k := by
  by_cases hm : name ∈ b.members (b.key name)
  · have hk : ¬ (b.key name = k ∧ name ∉ b.members k) := by
      rintro ⟨rfl, hn⟩
      exact hn hm
    rw [add, if_pos hm, if_neg hk]
  · rw [add, if_neg hm, members, bucket?, KeyedList.get?_insert]
    by_cases hk : b.key name = k
    · subst hk
      rw [if_pos rfl, if_pos ⟨rfl, hm⟩]
      rfl
    · rw [if_neg hk, if_neg (fun h => hk h.1)]
      rfl

theorem extends_add (b : Buckets) (name : String) : b.Extends (b.add name) where
  trimLength_eq := by
    simp only [add]
    split <;> rfl
  members_prefix k := by
    rw [members_add]
    split
    · exact List.prefix_append _ _
    · exact List.prefix_rfl

theorem holds_add (b : Buckets) (name : String) : (b.add name).Holds name := by
  rw [Holds, key_add, members_add]
  by_cases hm : name ∈ b.members (b.key name) <;> simp [hm]

/-- A name that has a place needs no other. -/
theorem Holds.add_eq {b : Buckets} {name : String} (h : b.Holds name) : b.add name = b := if_pos h

/-- The short form is settled before the name takes its place. -/
theorem shortForm_add (b : Buckets) (name : String) :
    (b.add name).shortForm name = b.shortForm name := by
  by_cases hm : name ∈ b.members (b.key name)
  · rw [add, if_pos hm]
  · have hposition : (b.add name).position name = b.position name := by
      rw [position, position, key_add, members_add, if_pos ⟨rfl, hm⟩, List.idxOf_append_of_notMem hm,
        List.idxOf_eq_length hm]
      simp
    rw [shortForm, shortForm, key_add, hposition]

theorem keyed_empty (trimLength : Nat) : (empty trimLength).Keyed := by
  intro k name hn
  exact absurd hn List.not_mem_nil

theorem Keyed.add {b : Buckets} (h : b.Keyed) (name : String) : (b.add name).Keyed := by
  intro k other ho
  rw [members_add] at ho
  split at ho
  · rename_i hk
    rcases List.mem_append.mp ho with ho | ho
    · rw [key_add]
      exact h k other ho
    · rw [List.mem_singleton.mp ho, key_add]
      exact hk.1
  · rw [key_add]
    exact h k other ho

theorem length_key (b : Buckets) (name : String) :
    (b.key name).toList.length = min b.trimLength name.toList.length := by
  simp [key]

theorem key_eq_self {b : Buckets} {name : String} (h : (b.key name).toList.length < b.trimLength) :
    b.key name = name := by
  rw [length_key] at h
  rw [key, List.take_of_length_le (by omega), String.ofList_toList]

/-- A bucket whose key is below the full length holds one name only. -/
theorem Keyed.position_eq_zero {b : Buckets} (hb : b.Keyed) {name : String}
    (h : (b.key name).toList.length < b.trimLength) : b.position name = 0 := by
  have hself : ∀ other ∈ b.members (b.key name), other = name := by
    intro other ho
    have hkey := hb _ other ho
    rw [← key_eq_self h, ← hkey, key_eq_self (by rwa [hkey])]
  rw [position]
  cases hm : b.members (b.key name) with
  | nil => simp
  | cons first rest =>
    rw [hself first (by simp [hm])]
    exact List.idxOf_cons_self

theorem toList_shortForm (b : Buckets) (name : String) :
    (b.shortForm name).toList = (b.key name).toList ++ suffixDigits (b.position name) := by
  rw [shortForm, String.toList_append, suffix_toList]

/-- A short key is followed by the least number, so no longer key can make up for it. -/
theorem Keyed.length_key_le {b : Buckets} (hb : b.Keyed) {name other : String}
    (h : b.shortForm name = b.shortForm other) :
    (b.key other).toList.length ≤ (b.key name).toList.length := by
  by_contra hlt
  have hother := length_key b other
  have hshort : (b.key name).toList.length < b.trimLength := by omega
  have hlength := congrArg (List.length ∘ String.toList) h
  simp only [Function.comp_apply, toList_shortForm, List.length_append,
    hb.position_eq_zero hshort, length_suffixDigits_zero] at hlength
  have hwidth := suffixWidth_le_length (b.position other)
  omega

/-- A name with a place shares its short form with no other name. -/
theorem Keyed.eq_of_shortForm_eq {b : Buckets} (hb : b.Keyed) {name other : String}
    (hn : b.Holds name) (h : b.shortForm name = b.shortForm other) : name = other := by
  have hlength : (b.key name).toList.length = (b.key other).toList.length :=
    Nat.le_antisymm (hb.length_key_le h.symm) (hb.length_key_le h)
  have hlist := congrArg String.toList h
  rw [toList_shortForm, toList_shortForm] at hlist
  obtain ⟨hkey, hsuffix⟩ := List.append_inj hlist hlength
  have hposition := suffixDigits_inj.mp hsuffix
  rw [position, position, ← String.toList_inj.mp hkey] at hposition
  exact (List.idxOf_inj hn).mp hposition

/-- What a run of shortenings leaves behind: every name has its place, and each result is the
short form by the last buckets. -/
theorem mapThrough_shorten {b : Buckets} (hb : b.Keyed) (names : List String) :
    let result := mapThrough shorten b names
    b.Extends result.2 ∧ result.2.Keyed ∧ (∀ name ∈ names, result.2.Holds name) ∧
      result.1 = names.map result.2.shortForm := by
  induction names generalizing b with
  | nil => exact ⟨Extends.refl b, hb, by simp, rfl⟩
  | cons name names ih =>
    obtain ⟨hextends, hkeyed, hholds, hresults⟩ := ih (hb.add name)
    simp only [mapThrough, shorten]
    refine ⟨(extends_add b name).trans hextends, hkeyed, ?_, ?_⟩
    · rintro other (_ | ⟨_, hmem⟩)
      · exact hextends.holds (holds_add b name)
      · exact hholds other hmem
    · rw [List.map_cons, hextends.shortForm_eq (holds_add b name), shortForm_add, hresults]

/-- In a run of shortenings from empty buckets two results are the same exactly where the names
are, whatever the names' lengths and however many of them share a bucket. -/
theorem shorten_run_eq_iff (trimLength : Nat) (names : List String) (i j : Nat) :
    let shortened := (mapThrough shorten (empty trimLength) names).1
    shortened[i]? = shortened[j]? ↔ names[i]? = names[j]? := by
  obtain ⟨-, hkeyed, hholds, hresults⟩ := mapThrough_shorten (keyed_empty trimLength) names
  intro shortened
  simp only [shortened, hresults, List.getElem?_map]
  constructor
  · intro h
    cases hi : names[i]? with
    | none =>
      rw [hi] at h
      exact (Option.map_eq_none_iff.mp h.symm).symm
    | some name =>
      cases hj : names[j]? with
      | none => simp [hi, hj] at h
      | some other =>
        rw [hi, hj] at h
        have hn := hholds name (List.mem_of_getElem? hi)
        rw [hkeyed.eq_of_shortForm_eq hn (Option.some.inj h)]
  · intro h
    rw [h]

end AbapNaming.Buckets
