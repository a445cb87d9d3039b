import Mathlib.Data.List.Nodup
import AbapNaming.Proofs.Naming.Calls
import AbapNaming.Proofs.TypeCodes.Table

/-! # What holds of every naming state

Whatever was called before, each bucket has names, no two of them the same, and all are too long to
be kept whole and begin with its key. The table gives each type one code, which ends in the number
of its place. A call only puts something behind what is there: an edit one name at the end of one
bucket at most, a type one code at most, and a path nothing but names.
-/

namespace AbapNaming

open KeyedList

/-- A key and its names as they should be in a state with these limits. -/
structure IsBucket (limits : Limits) (key : String) (names : List String) : Prop where
  ne_nil : names ≠ []
  nodup : names.Nodup
  long : ∀ name ∈ names, limits.maxLength < name.length
  cut : ∀ name ∈ names, String.ofList (name.toList.take limits.trimLength) = key

namespace IsBucket

variable {limits : Limits} {key name : String} {names : List String}
  (hlong : limits.maxLength < name.length)
  (hcut : String.ofList (name.toList.take limits.trimLength) = key)

include hlong hcut

theorem singleton : IsBucket limits key [name] where
  ne_nil := List.cons_ne_nil name []
  nodup := List.nodup_singleton name
  long := by simpa using hlong
  cut := by simpa using hcut

theorem concat (h : IsBucket limits key names) (hnew : name ∉ names) :
    IsBucket limits key (names ++ [name]) where
  ne_nil := by simp
  nodup := by
    rw [← List.concat_eq_append]
    exact h.nodup.concat hnew
  long := List.forall_mem_append.mpr ⟨h.long, by simpa using hlong⟩
  cut := List.forall_mem_append.mpr ⟨h.cut, by simpa using hcut⟩

end IsBucket

namespace Naming

/-- A state whose buckets and type codes are as they should be under its limits. -/
structure WellFormed (n : Naming) : Prop where
  trimLength_eq : n.buckets.trimLength = n.limits.trimLength
  keys_nodup : (keys n.buckets.entries).Nodup
  isBucket : ∀ entry ∈ n.buckets.entries, IsBucket n.limits entry.1 entry.2
  numbered : n.types.Numbered

/-- The later state has all that the earlier one has, in the same places. -/
structure Grows (n n' : Naming) : Prop extends n.Extends n' where
  keys_prefix : keys n.buckets.entries <+: keys n'.buckets.entries
  codes_prefix : n.types.entries <+: n'.types.entries

/-- All that may be new is this name, behind the others of its bucket. -/
def GainsName (n n' : Naming) (whole : String) : Prop :=
  n'.types = n.types ∧
    (n'.buckets = n.buckets ∨ whole ∉ n.buckets.members (n.buckets.key whole) ∧
      ∀ k, n'.buckets.bucket? k =
        if k = n.buckets.key whole then some (n.buckets.members k ++ [whole])
        else n.buckets.bucket? k)

/-- All that may be new is a code of this type, behind the others. -/
def GainsCode (n n' : Naming) (type : String) : Prop :=
  n'.buckets = n.buckets ∧
    (n'.types = n.types ∨ type ∉ keys n.types.entries ∧
      ∃ code, n'.types.entries = n.types.entries ++ [(type, code)])

/-- An edit leaves the buckets as they are, or puts a name that is too long and was not there behind
the others with its key. -/
theorem bucketsWith_cases (n : Naming) (whole : String) :
    let key := n.buckets.key whole
    n.bucketsWith whole = n.buckets ∨
    n.isLong whole = true ∧ whole ∉ n.buckets.members key ∧ n.bucketsWith whole =
      { n.buckets with
        entries := insert n.buckets.entries key (n.buckets.members key ++ [whole]) } := by
  cases hlong : n.isLong whole with
  | false => exact .inl (bucketsWith_of_short hlong)
  | true =>
    rw [bucketsWith_of_long hlong]
    by_cases hknown : n.buckets.Holds whole
    · exact .inl hknown.add_eq
    · exact .inr ⟨rfl, hknown, if_neg hknown⟩

theorem wellFormed_start (limits : Limits) (reserved : Reserved) :
    (start limits reserved).WellFormed where
  trimLength_eq := rfl
  keys_nodup := List.nodup_nil
  isBucket _ h := absurd h List.not_mem_nil
  numbered := TypeCodes.numbered_empty

section

variable {n : Naming} (h : n.WellFormed)

include h

theorem WellFormed.isBucket_of_bucket? {k : String} {names : List String}
    (hk : n.buckets.bucket? k = some names) : IsBucket n.limits k names :=
  h.isBucket (k, names) (mem_of_get?_eq_some hk)

theorem WellFormed.isBucket_members_concat {whole : String} (hlong : n.isLong whole = true)
    (hnew : whole ∉ n.buckets.members (n.buckets.key whole)) :
    IsBucket n.limits (n.buckets.key whole)
      (n.buckets.members (n.buckets.key whole) ++ [whole]) := by
  have hlong' : n.limits.maxLength < whole.length := of_decide_eq_true hlong
  have hcut : String.ofList (whole.toList.take n.limits.trimLength) = n.buckets.key whole := by
    rw [Buckets.key, h.trimLength_eq]
  rw [Buckets.members] at hnew ⊢
  cases hbucket : n.buckets.bucket? (n.buckets.key whole) with
  | none => exact .singleton hlong' hcut
  | some names =>
    rw [hbucket] at hnew
    exact .concat hlong' hcut (h.isBucket_of_bucket? hbucket) hnew

theorem WellFormed.bucketsWith (whole : String) :
    WellFormed { n with buckets := n.bucketsWith whole } := by
  rcases n.bucketsWith_cases whole with hkept | ⟨hlong, hnew, hentered⟩
  · rw [hkept]
    exact h
  · rw [hentered]
    refine ⟨h.trimLength_eq, ?_, fun entry hentry => ?_, h.numbered⟩
    · change (keys (insert _ _ _)).Nodup
      rw [keys_insert]
      split
      · exact h.keys_nodup
      · rename_i hkey
        rw [← List.concat_eq_append]
        exact h.keys_nodup.concat hkey
    · rcases mem_of_mem_insert hentry with rfl | hentry
      · exact h.isBucket_members_concat hlong hnew
      · exact h.isBucket entry hentry

theorem WellFormed.edit (name tag : String) : (n.edit name tag).2.WellFormed :=
  h.bucketsWith (candidate name tag)

theorem WellFormed.intern (name tag : String) : (n.intern name tag).2.WellFormed :=
  ⟨h.trimLength_eq, h.keys_nodup, h.isBucket, h.numbered.assign name tag⟩

end

theorem wellFormed_after_start (limits : Limits) (reserved : Reserved) (calls : List Call) :
    ((start limits reserved).after calls).WellFormed :=
  after_keeps (fun _ name tag h => h.edit name tag) (fun _ name tag h => h.intern name tag) calls
    (wellFormed_start limits reserved)

theorem Grows.refl (n : Naming) : n.Grows n := ⟨Extends.refl n, List.prefix_rfl, List.prefix_rfl⟩

theorem Grows.trans {n n' n'' : Naming} (h : n.Grows n') (h' : n'.Grows n'') : n.Grows n'' :=
  ⟨h.toExtends.trans h'.toExtends, h.keys_prefix.trans h'.keys_prefix,
    h.codes_prefix.trans h'.codes_prefix⟩

theorem gainsName_edit (n : Naming) (name tag : String) :
    n.GainsName (n.edit name tag).2 (candidate name tag) := by
  refine ⟨n.types_edit name tag, ?_⟩
  rw [buckets_edit]
  rcases n.bucketsWith_cases (candidate name tag) with hkept | ⟨-, hnew, hentered⟩
  · exact .inl hkept
  · refine .inr ⟨hnew, fun k => ?_⟩
    rw [hentered, Buckets.bucket?, get?_insert]
    by_cases hk : k = n.buckets.key (candidate name tag)
    · subst hk
      rw [if_pos rfl, if_pos rfl]
    · rw [if_neg (Ne.symm hk), if_neg hk]
      rfl

theorem gainsCode_intern (n : Naming) (type tag : String) :
    n.GainsCode (n.intern type tag).2 type := by
  refine ⟨rfl, ?_⟩
  change (n.types.assign type tag).2 = n.types ∨ _
  rcases n.types.assign_cases type tag with ⟨code, -, hfound⟩ | ⟨hnew, hassign⟩
  · exact .inl (congrArg Prod.snd hfound)
  · exact .inr ⟨hnew, _, congrArg (fun assigned => assigned.2.entries) hassign⟩

theorem grows_edit (n : Naming) (name tag : String) : n.Grows (n.edit name tag).2 where
  toExtends := n.extends_edit name tag
  keys_prefix := by
    rw [buckets_edit]
    rcases n.bucketsWith_cases (candidate name tag) with hkept | ⟨-, -, hentered⟩
    · rw [hkept]
    · rw [hentered]
      exact keys_prefix_insert _ _ _
  codes_prefix := List.prefix_rfl

theorem grows_intern (n : Naming) (type tag : String) : n.Grows (n.intern type tag).2 where
  toExtends := n.extends_intern type tag
  keys_prefix := List.prefix_rfl
  codes_prefix := by
    rcases (n.gainsCode_intern type tag).2 with htypes | ⟨-, code, hentries⟩
    · rw [htypes]
    · rw [hentries]
      exact List.prefix_append _ _

theorem grows_after (n : Naming) (calls : List Call) : n.Grows (n.after calls) :=
  after_keeps (fun n' name tag h => h.trans (n'.grows_edit name tag))
    (fun n' type tag h => h.trans (n'.grows_intern type tag)) calls (Grows.refl n)

theorem grows_call (n : Naming) (c : Call) : n.Grows (n.call c) := n.grows_after [c]

theorem types_call_path (n : Naming) (path : String) : (n.call (.path path)).types = n.types := by
  rw [call_path]
  exact afterTokens_keeps (P := fun n' => n'.types = n.types)
    (fun n' name tag h => (n'.types_edit name tag).trans h) _ rfl

theorem call_path_of_error {n : Naming} {path : String} {error : PathError}
    (h : n.renderPath path = .error error) : n.call (.path path) = n := by
  rw [call, h]

/-- Every state that calls reach from a new one is well-formed, and whatever is called next only
puts something behind what is there. A malformed path changes nothing. -/
theorem wellFormed_and_grows_after_start (limits : Limits) (reserved : Reserved)
    (calls : List Call) :
    let n := (start limits reserved).after calls
    n.WellFormed ∧ (∀ c, n.Grows (n.call c)) ∧
    (∀ name tag, n.GainsName (n.call (.edit name tag)) (candidate name tag)) ∧
    (∀ type tag, n.GainsCode (n.call (.intern type tag)) type) ∧
    ∀ path, (n.call (.path path)).types = n.types ∧
      ∀ error, n.renderPath path = .error error → n.call (.path path) = n := by
  intro n
  refine ⟨wellFormed_after_start limits reserved calls, n.grows_call, n.gainsName_edit,
    n.gainsCode_intern, fun path => ⟨n.types_call_path path, fun error => call_path_of_error⟩⟩

def twoOfFive : Naming := start { maxLength := 5, trimLength := 2 } ⟨["attic"], []⟩

def roomCalls : List Call :=
  [.edit "bedroom" "", .path "/rooms/\x7bbedside\x7d", .intern "Room" "ty_", .edit "attic" "",
    .intern "Bed" "zz_", .edit "bedding" "", .path "/rooms/\x7b", .edit "bedroom" ""]

theorem wellFormed_and_grows_rooms :
    let n := twoOfFive.after roomCalls
    n.buckets.entries = [("be", ["bedroom", "bedding"]), ("iv", ["iv_p_bedside"])] ∧
    n.types.entries = [("Room", "ty_000"), ("Bed", "zz_001")] ∧
    n.renderPath "/rooms/\x7b" = .error ⟨"/rooms/\x7b", 7, .unterminated⟩ ∧
    n.call (.path "/rooms/\x7b") = n ∧ n.WellFormed := by
  intro n
  obtain ⟨hwellFormed, -, -, -, hpath⟩ := wellFormed_and_grows_after_start
    { maxLength := 5, trimLength := 2 } ⟨["attic"], []⟩ roomCalls
  have hmalformed : n.renderPath "/rooms/\x7b" = .error ⟨"/rooms/\x7b", 7, .unterminated⟩ := by
    rfl
  refine ⟨?_, ?_, hmalformed, (hpath _).2 _ hmalformed, hwellFormed⟩ <;> decide +kernel

end Naming

end AbapNaming
