import AbapNaming.Proofs.Naming.Collisions
import AbapNaming.Proofs.Naming.Independence

/-! # How long identifiers are

Without chosen spellings an identifier is as long as what it is made of: the candidate, or its first
characters with the number of its place, and an underscore where it is escaped. The cut leaves room
for some digits. So an identifier outgrows the longest name exactly where its bucket has so many
names that the number of its place needs more. No limits keep a run from getting there.
-/

namespace AbapNaming

/-- The digits that a suffix may have behind the cut. -/
def Limits.room (l : Limits) : Nat := l.maxLength - l.trimLength

theorem Reserved.length_escape {r : Reserved} (h : r.replacements = []) (s : String) :
    (r.escape s).length = s.length + 1 := by
  rw [escape_of_no_replacements h, String.length_append, Nat.add_comm]
  rfl

theorem Buckets.length_shortForm {b : Buckets} {name : String} (h : b.trimLength ≤ name.length) :
    (b.shortForm name).length = b.trimLength + (suffix (b.position name)).length := by
  have hkey : (b.key name).length = b.trimLength := by
    rw [← String.length_toList, length_key, String.length_toList, Nat.min_eq_left h]
  rw [shortForm, String.length_append, hkey]

theorem Buckets.Holds.getElem?_position {b : Buckets} {name : String} (h : b.Holds name) :
    (b.members (b.key name))[b.position name]? = some name :=
  List.getElem?_idxOf h

theorem Buckets.Holds.position_lt {b : Buckets} {name : String} (h : b.Holds name) :
    b.position name < (b.members (b.key name)).length :=
  List.idxOf_lt_length_of_mem h

namespace Editing

/-- The place of the candidate in its bucket, once it has one. -/
def place (x : Editing) : Nat := x.next.buckets.position x.whole

def escapeLength (x : Editing) : Nat := x.outcome.escaped.toNat

variable {x : Editing}

theorem length_value (hplain : x.state.reserved.replacements = []) :
    x.outcome.value.length = x.short.length + x.escapeLength := by
  have hvalue : x.outcome.value = x.state.identified x.whole := rfl
  have hescaped : x.escapeLength = (x.state.escapes x.whole).toNat := rfl
  rw [hvalue, hescaped]
  cases hescapes : x.state.escapes x.whole with
  | true =>
    rw [Naming.identified_of_escapes hescapes, Reserved.length_escape hplain]
    rfl
  | false =>
    rw [Naming.identified_of_plain hescapes]
    exact (Nat.add_zero _).symm

theorem truncated_iff :
    x.outcome.truncated = true ↔ x.state.limits.maxLength < x.whole.length :=
  decide_eq_true_iff

theorem length_whole_le (hkept : x.outcome.truncated = false) :
    x.whole.length ≤ x.state.limits.maxLength :=
  Nat.not_lt.mp (of_decide_eq_false hkept)

theorem holds_next (hlong : x.outcome.truncated = true) : x.next.buckets.Holds x.whole :=
  x.state.holds_edit x.name x.tag hlong

/-- A candidate that is cut is its first characters and the number of its place. -/
theorem length_short_of_truncated (hcut : x.state.buckets.trimLength = x.state.limits.trimLength)
    (hroom : x.state.limits.trimLength + suffixWidth ≤ x.state.limits.maxLength)
    (hlong : x.outcome.truncated = true) :
    x.short.length = x.state.limits.trimLength + (suffix x.place).length := by
  have hnext : x.next.buckets.trimLength = x.state.limits.trimLength :=
    (x.state.extends_edit x.name x.tag).buckets.trimLength_eq.trans hcut
  have hwhole : x.state.limits.maxLength < x.whole.length := truncated_iff.mp hlong
  have hshort : x.short = x.next.buckets.shortForm x.whole :=
    (x.state.fitted_edit x.name x.tag).symm.trans (Naming.fitted_of_long hlong)
  rw [hshort, Buckets.length_shortForm (by omega), hnext, place]

/-- Whatever is not cut is short enough, and what is cut is too long exactly from the place on
whose number has more digits than there is room for. -/
theorem lt_length_value_iff (hplain : x.state.reserved.replacements = [])
    (hcut : x.state.buckets.trimLength = x.state.limits.trimLength)
    (hroom : x.state.limits.trimLength + suffixWidth ≤ x.state.limits.maxLength) :
    x.state.limits.maxLength + x.escapeLength < x.outcome.value.length ↔
      x.outcome.truncated = true ∧ 10 ^ x.state.limits.room ≤ x.place := by
  rw [length_value hplain, Nat.add_lt_add_iff_right]
  cases hlong : x.outcome.truncated with
  | false =>
    have hkept : x.short = x.whole := Naming.fitted_of_short hlong
    rw [hkept]
    exact iff_of_false (Nat.not_lt.mpr (length_whole_le hlong)) fun h => Bool.false_ne_true h.1
  | true =>
    have hwidth : suffixWidth ≤ x.state.limits.room := by
      rw [Limits.room]
      omega
    rw [length_short_of_truncated hcut hroom hlong, ← lt_length_suffix_iff hwidth,
      and_iff_right rfl, Limits.room]
    omega

end Editing

namespace Naming

theorem state_of_mem_editings {limits : Limits} {reserved : Reserved} {calls : List Call}
    {x : Editing} (hx : x ∈ (start limits reserved).editings calls) :
    x.state.limits = limits ∧ x.state.reserved = reserved ∧
      x.state.buckets.trimLength = limits.trimLength := by
  have hlater := (x.state.extends_edit x.name x.tag).trans (extends_of_mem_editings hx)
  have hrun := extends_after (start limits reserved) calls
  exact ⟨hlater.limits_eq.symm.trans hrun.limits_eq, hlater.reserved_eq.symm.trans hrun.reserved_eq,
    hlater.buckets.trimLength_eq.symm.trans hrun.buckets.trimLength_eq⟩

/-- The place of a name that is cut is below the number of names in its bucket, also later. -/
theorem place_lt_of_mem_editings {n : Naming} {calls : List Call} {x : Editing}
    (hx : x ∈ n.editings calls) (hlong : x.outcome.truncated = true) :
    ∃ k, x.place < ((n.after calls).buckets.members k).length := by
  have hgrown := (extends_of_mem_editings hx).buckets.members_prefix (x.next.buckets.key x.whole)
  exact ⟨_, Nat.lt_of_lt_of_le (Editing.holds_next hlong).position_lt hgrown.length_le⟩

/-- Whatever was called before, a name that is kept whole has the length of its candidate, and one
that is cut that of the cut and of the number of its place; an underscore comes on top. So an
identifier is too long exactly if it was cut and its place needs more digits than there is room for,
and none is in a run whose buckets stay below that. -/
theorem length_identifier (limits : Limits) (reserved : Reserved)
    (hplain : reserved.replacements = [])
    (hroom : limits.trimLength + suffixWidth ≤ limits.maxLength) (calls : List Call) :
    let n := (start limits reserved).after calls
    (∀ name tag,
      let x : Editing := ⟨n, name, tag⟩
      let names := x.next.buckets.members (x.next.buckets.key x.whole)
      (x.outcome.truncated = false → x.whole.length ≤ limits.maxLength ∧
        x.outcome.value.length = x.whole.length + x.escapeLength) ∧
      (x.outcome.truncated = true → names[x.place]? = some x.whole ∧
        x.outcome.value.length = limits.trimLength +
          max suffixWidth (Nat.toDigits 10 x.place).length + x.escapeLength) ∧
      (limits.maxLength + x.escapeLength < x.outcome.value.length ↔
        x.outcome.truncated = true ∧ 10 ^ limits.room ≤ x.place)) ∧
    ((∀ k, (n.buckets.members k).length ≤ 10 ^ limits.room) →
      ∀ x ∈ (start limits reserved).editings calls,
        x.outcome.value.length ≤ limits.maxLength + x.escapeLength) := by
  intro n
  constructor
  · intro name tag x names
    have hrun : (start limits reserved).Extends n := extends_after _ calls
    have hlimits : x.state.limits = limits := hrun.limits_eq
    have hreserved : x.state.reserved.replacements = [] := by rwa [hrun.reserved_eq]
    have hcut : x.state.buckets.trimLength = x.state.limits.trimLength := by
      rw [hlimits]
      exact hrun.buckets.trimLength_eq
    rw [← hlimits] at hroom ⊢
    refine ⟨fun hkept => ⟨Editing.length_whole_le hkept, ?_⟩, fun hlong => ⟨?_, ?_⟩, ?_⟩
    · rw [Editing.length_value hreserved, show x.short = x.whole from fitted_of_short hkept]
    · exact (Editing.holds_next hlong).getElem?_position
    · rw [Editing.length_value hreserved, Editing.length_short_of_truncated hcut hroom hlong,
        length_suffix]
    · exact Editing.lt_length_value_iff hreserved hcut hroom
  · intro hbuckets x hx
    obtain ⟨rfl, rfl, hcut⟩ := state_of_mem_editings hx
    refine Nat.not_lt.mp fun hlong => ?_
    obtain ⟨htruncated, hplace⟩ := (Editing.lt_length_value_iff hplain hcut hroom).mp hlong
    obtain ⟨k, hk⟩ := place_lt_of_mem_editings hx htruncated
    exact absurd (hbuckets k) (Nat.not_le.mpr (Nat.lt_of_le_of_lt hplace hk))

/-- A name that is cut, a word that is kept and escaped, and all edits of a run with few names. -/
theorem length_identifier_rooms :
    let n := twoOfFive.after roomCalls
    let bedding : Editing := ⟨n, "bedding", ""⟩
    let attic : Editing := ⟨n, "attic", ""⟩
    bedding.outcome = ⟨"be001", true, false⟩ ∧ bedding.place = 1 ∧
    bedding.outcome.value.length = 2 + max 3 (Nat.toDigits 10 1).length + 0 ∧
    attic.outcome = ⟨"_attic", false, true⟩ ∧ attic.whole.length ≤ 5 ∧
    attic.outcome.value.length = attic.whole.length + 1 ∧
    ∀ x ∈ twoOfFive.editings roomCalls, x.outcome.value.length ≤ 5 + x.escapeLength := by
  intro n bedding attic
  obtain ⟨hedits, hrun⟩ := length_identifier { maxLength := 5, trimLength := 2 } ⟨["attic"], []⟩ rfl
    (by decide) roomCalls
  have hbedding : bedding.outcome = ⟨"be001", true, false⟩ := by decide +kernel
  have hplace : bedding.place = 1 := by decide +kernel
  have hattic : attic.outcome = ⟨"_attic", false, true⟩ := by decide +kernel
  have hcut : bedding.outcome.value.length =
      2 + max 3 (Nat.toDigits 10 bedding.place).length + bedding.outcome.escaped.toNat :=
    ((hedits "bedding" "").2.1 (congrArg Edited.truncated hbedding)).2
  have hkept : attic.whole.length ≤ 5 ∧
      attic.outcome.value.length = attic.whole.length + attic.outcome.escaped.toNat :=
    (hedits "attic" "").1 (congrArg Edited.truncated hattic)
  rw [hplace, congrArg Edited.escaped hbedding] at hcut
  rw [congrArg Edited.escaped hattic] at hkept
  refine ⟨hbedding, hplace, hcut, hattic, hkept.1, hkept.2, hrun fun k => ?_⟩
  have hentries : n.buckets.entries =
      [("be", ["bedroom", "bedding"]), ("iv", ["iv_p_bedside"])] := by decide +kernel
  rw [show (start _ _).after roomCalls = n from rfl, Buckets.members, Buckets.bucket?, hentries]
  simp only [KeyedList.get?_cons, KeyedList.get?_nil]
  split_ifs <;> decide

def longTag (limits : Limits) (i : Nat) : String :=
  String.ofList (List.replicate (limits.maxLength + 1) 'a') ++ suffix i

def longEdits (limits : Limits) (count : Nat) : List Call :=
  ((List.range count).map (longTag limits)).map (.edit "")

theorem wholes_edits (n : Naming) (tags : List String) :
    n.wholes (tags.map (.edit "")) = tags := by
  induction tags generalizing n with
  | nil => rfl
  | cons tag tags ih =>
    have hwhole : candidate "" tag = tag := String.append_empty
    exact congrArg₂ List.cons hwhole (ih (n.edit "" tag).2)

theorem longTag_inj {limits : Limits} {i j : Nat} :
    longTag limits i = longTag limits j ↔ i = j := by
  rw [longTag, longTag, String.append_right_inj, suffix_inj]

theorem nodup_longTags (limits : Limits) (count : Nat) :
    ((List.range count).map (longTag limits)).Nodup :=
  List.nodup_range.map fun _ _ => longTag_inj.mp

theorem lt_length_longTag (limits : Limits) (i : Nat) :
    limits.maxLength < (longTag limits i).length := by
  rw [longTag, String.length_append, String.length_ofList, List.length_replicate]
  omega

theorem take_longTag {limits : Limits} (h : limits.trimLength ≤ limits.maxLength) (i : Nat) :
    (longTag limits i).toList.take limits.trimLength = List.replicate limits.trimLength 'a' := by
  rw [longTag, String.toList_append, String.toList_ofList, List.take_append_of_le_length,
    List.take_replicate, Nat.min_eq_left (by omega)]
  rw [List.length_replicate]
  omega

/-- All these tags get into one bucket, each in its turn. -/
theorem members_longEdits {limits : Limits} (h : limits.trimLength ≤ limits.maxLength)
    (reserved : Reserved) (count i : Nat) :
    let n := (start limits reserved).after (longEdits limits count)
    n.buckets.members (n.buckets.key (longTag limits i)) =
      (List.range count).map (longTag limits) := by
  intro n
  have hkeys (j : Nat) : (start limits reserved).buckets.key (longTag limits j) =
      n.buckets.key (longTag limits i) := by
    rw [(extends_after (start limits reserved) _).buckets.key_eq, Buckets.key, Buckets.key,
      show (start limits reserved).buckets.trimLength = limits.trimLength from rfl, take_longTag h,
      take_longTag h]
  have hall : (start limits reserved).overlong (n.buckets.key (longTag limits i))
      ((List.range count).map (longTag limits)) = (List.range count).map (longTag limits) := by
    refine List.filter_eq_self.mpr fun whole hwhole => ?_
    obtain ⟨j, -, rfl⟩ := List.mem_map.mp hwhole
    exact Bool.and_eq_true_iff.mpr
      ⟨decide_eq_true (lt_length_longTag limits j), decide_eq_true (hkeys j)⟩
  rw [members_after_start, longEdits, wholes_edits, hall,
    TypeCodes.eraseDups_of_nodup (nodup_longTags limits count)]

theorem after_longEdits_succ (n : Naming) (limits : Limits) (count : Nat) :
    n.after (longEdits limits (count + 1)) =
      ((n.after (longEdits limits count)).edit "" (longTag limits count)).2 := by
  rw [longEdits, List.range_succ, List.map_append, List.map_append, after_append]
  rfl

/-- Whatever the limits are, enough names that begin alike make an identifier too long. -/
theorem exists_overlong_identifier (limits : Limits) (reserved : Reserved)
    (hplain : reserved.replacements = [])
    (hroom : limits.trimLength + suffixWidth ≤ limits.maxLength) :
    ∃ calls name tag, let x : Editing := ⟨(start limits reserved).after calls, name, tag⟩
      limits.maxLength + x.escapeLength < x.outcome.value.length := by
  let count := 10 ^ limits.room
  refine ⟨longEdits limits count, "", longTag limits count, ?_⟩
  intro x
  have hrun : (start limits reserved).Extends x.state := extends_after _ _
  have hwhole : x.whole = longTag limits count := String.append_empty
  have hnext : x.next = (start limits reserved).after (longEdits limits (count + 1)) :=
    (after_longEdits_succ _ limits count).symm
  have hplace : x.place = count := by
    have hlast := (nodup_longTags limits (count + 1)).idxOf_getElem count (by simp)
    rw [List.getElem_map, List.getElem_range] at hlast
    rw [Editing.place, Buckets.position, hwhole, hnext, members_longEdits (by omega), hlast]
  have hlimits : x.state.limits = limits := hrun.limits_eq
  have hreserved : x.state.reserved.replacements = [] := by
    rw [hrun.reserved_eq]
    exact hplain
  have hcut : x.state.buckets.trimLength = x.state.limits.trimLength := by
    rw [hlimits]
    exact hrun.buckets.trimLength_eq
  have hlong : x.outcome.truncated = true := by
    rw [Editing.truncated_iff, hlimits, hwhole]
    exact lt_length_longTag limits count
  rw [← hlimits] at hroom
  have hwide := (Editing.lt_length_value_iff hreserved hcut hroom).mpr
    ⟨hlong, by rw [hlimits, hplace]⟩
  rwa [hlimits] at hwide

end Naming

end AbapNaming
