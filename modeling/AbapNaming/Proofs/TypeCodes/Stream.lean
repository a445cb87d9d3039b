import Mathlib.Data.List.Basic
import AbapNaming.Identifier.Role
import AbapNaming.Proofs.TypeCodes.Requests

/-! # The table that a stream of names leaves

A run asks for all codes under one tag. Names come one after the other, some of them again and
again. The table then holds the distinct names in the order in which they first came, numbered from
zero, and a name that has come keeps its number however the stream goes on.
-/

namespace AbapNaming.TypeCodes

open KeyedList

def ofStream (names : List String) : TypeCodes :=
  ⟨names.eraseDups.mapIdx fun i name => (name, Role.typeCode.tag ++ suffix i)⟩

/-- The code of a name in the table of a stream. -/
def codeIn (names : List String) (name : String) : String :=
  Role.typeCode.tag ++ suffix (names.eraseDups.idxOf name)

/-- The names of a stream under the one tag that they are asked for. -/
def tagged (names : List String) : KeyedList String := names.map (·, Role.typeCode.tag)

theorem keys_tagged (names : List String) : keys (tagged names) = names := by
  rw [keys, tagged, List.map_map]
  exact List.map_id names

theorem firstTag_tagged {names : List String} {name : String} (h : name ∈ names) :
    firstTag (tagged names) name = Role.typeCode.tag := by
  obtain ⟨tag, htag⟩ := exists_get?_of_mem_keys ((keys_tagged names).symm ▸ h)
  obtain ⟨_, -, hentry⟩ := List.mem_map.mp (mem_of_get?_eq_some htag)
  rw [firstTag, htag, Option.getD_some, ← (Prod.mk.inj hentry).2]

theorem ofStream_eq (names : List String) : ofStream names = ofRequests (tagged names) := by
  rw [ofStream, ofRequests, keys_tagged]
  refine congrArg TypeCodes.mk (List.mapIdx_eq_mapIdx_iff.mpr fun i hi => ?_)
  rw [firstTag_tagged (List.mem_eraseDups.mp (List.getElem_mem hi))]

theorem codeIn_eq {names : List String} {name : String} (h : name ∈ names) :
    codeIn names name = coded (tagged names) name := by
  rw [codeIn, coded, firstTag_tagged h, keys_tagged]

theorem code?_ofStream (names : List String) (name : String) :
    (ofStream names).code? name = if name ∈ names then some (codeIn names name) else none := by
  rw [ofStream_eq, code?_ofRequests, keys_tagged]
  by_cases h : name ∈ names
  · rw [if_pos h, if_pos h, codeIn_eq h]
  · rw [if_neg h, if_neg h]

theorem codeIn_inj {names : List String} {name other : String} (h : name ∈ names) :
    codeIn names name = codeIn names other ↔ name = other := by
  rw [codeIn, codeIn, String.append_right_inj, suffix_inj,
    List.idxOf_inj (List.mem_eraseDups.mpr h)]

/-- The code that a name would get is the one that it gets. -/
theorem codeIn_concat (names : List String) (name : String) :
    codeIn (names ++ [name]) name = codeIn names name := by
  by_cases h : name ∈ names
  · rw [codeIn, eraseDups_concat_of_mem h, codeIn]
  · have hnew : name ∉ names.eraseDups := fun hm => h (List.mem_eraseDups.mp hm)
    rw [codeIn, eraseDups_concat_of_notMem h, List.idxOf_append_of_notMem hnew, codeIn,
      List.idxOf_eq_length hnew, List.idxOf_cons_self, Nat.add_zero]

theorem assign_ofStream (names : List String) (name : String) :
    (ofStream names).assign name Role.typeCode.tag =
      (codeIn (names ++ [name]) name, ofStream (names ++ [name])) := by
  have hconcat : tagged (names ++ [name]) = tagged names ++ [(name, Role.typeCode.tag)] :=
    List.map_append
  rw [ofStream_eq, assign_ofRequests, ofStream_eq, hconcat,
    codeIn_eq (List.mem_append_right names List.mem_cons_self), hconcat]

end AbapNaming.TypeCodes
