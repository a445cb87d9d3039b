import Mathlib.Data.List.Nodup
import Mathlib.Data.String.Basic
import AbapNaming.Json.Codec
import AbapNaming.Proofs.Json.Tree

/-! # Values are read as they were written

A value that was read is nested no deeper than there was room, and the members of its objects are
sorted by key. Sorting such members again changes nothing, so the tree of the value gives it back.
-/

namespace AbapNaming

theorem foldl_eq_append {α : Type} {f : List α → α → List α} {r : α → α → Prop}
    (hf : ∀ l a, (∀ b ∈ l, r b a) → f l a = l ++ [a]) {l l' : List α}
    (h : (l ++ l').Pairwise r) : l'.foldl f l = l ++ l' := by
  induction l' generalizing l with
  | nil => rw [List.foldl_nil, List.append_nil]
  | cons a l' ih =>
    have hlast : ∀ b ∈ l, r b a := fun b hb =>
      (List.pairwise_append.mp h).2.2 b hb a List.mem_cons_self
    rw [List.append_cons] at h ⊢
    rw [List.foldl_cons, hf l a hlast, ih h]

namespace KeyedList

variable {α : Type}

theorem insert_eq_append {l : KeyedList α} {e : String × α} (h : ∀ b ∈ l, b.1 ≠ e.1) :
    insert l e.1 e.2 = l ++ [e] := by
  induction l with
  | nil => rfl
  | cons b l ih =>
    obtain ⟨hb, hl⟩ := List.forall_mem_cons.mp h
    rw [insert, if_neg hb, ih hl, List.cons_append]

theorem foldl_insert_of_nodup {l : KeyedList α} (h : l.keys.Nodup) :
    l.foldl (fun l e => insert l e.1 e.2) [] = l :=
  foldl_eq_append (fun _ _ => insert_eq_append) (List.pairwise_map.mp h)

theorem nodup_keys_insert {l : KeyedList α} (h : l.keys.Nodup) (k : String) (v : α) :
    (insert l k v).keys.Nodup := by
  rw [keys_insert]
  split
  · exact h
  · next hk => exact List.Nodup.append h (List.nodup_singleton k) (by simpa using hk)

end KeyedList

namespace Json

section

variable {α : Type}

theorem mem_of_mem_insertSorted {k : String} {v : α} {l : KeyedList α} {e : String × α}
    (h : e ∈ insertSorted k v l) : e = (k, v) ∨ e ∈ l := by
  induction l with
  | nil => exact .inl (List.mem_singleton.mp h)
  | cons b l ih =>
    rw [insertSorted] at h
    split at h
    · exact List.mem_cons.mp h
    · split at h
      · exact (List.mem_cons.mp h).imp_right (List.mem_cons_of_mem b)
      · rcases List.mem_cons.mp h with rfl | h
        · exact .inr List.mem_cons_self
        · exact (ih h).imp_right (List.mem_cons_of_mem b)

theorem pairwise_insertSorted {l : KeyedList α} (h : l.Pairwise (·.1 < ·.1)) (k : String) (v : α) :
    (insertSorted k v l).Pairwise (·.1 < ·.1) := by
  induction l with
  | nil => exact List.pairwise_singleton _ _
  | cons b l ih =>
    obtain ⟨hb, hl⟩ := List.pairwise_cons.mp h
    rw [insertSorted]
    by_cases hbefore : k < b.1
    · rw [if_pos hbefore]
      refine List.pairwise_cons.mpr ⟨fun e he => ?_, h⟩
      rcases List.mem_cons.mp he with rfl | he
      · exact hbefore
      · exact hbefore.trans (hb e he)
    · rw [if_neg hbefore]
      by_cases hsame : k = b.1
      · rw [if_pos hsame]
        exact List.pairwise_cons.mpr ⟨fun e he => hsame ▸ hb e he, hl⟩
      · rw [if_neg hsame]
        refine List.pairwise_cons.mpr ⟨fun e he => ?_, ih hl⟩
        rcases mem_of_mem_insertSorted he with rfl | he
        · exact lt_of_le_of_ne (not_lt.mp hbefore) (Ne.symm hsame)
        · exact hb e he

theorem insertSorted_eq_append {l : KeyedList α} {e : String × α} (h : ∀ b ∈ l, b.1 < e.1) :
    insertSorted e.1 e.2 l = l ++ [e] := by
  induction l with
  | nil => rfl
  | cons b l ih =>
    obtain ⟨hb, hl⟩ := List.forall_mem_cons.mp h
    rw [insertSorted, if_neg hb.asymm, if_neg hb.ne', ih hl, List.cons_append]

/-- However the members came, they are sorted, and none is new. -/
theorem foldl_insertSorted_spec (p : String × α → Prop) {l : KeyedList α} (h : ∀ e ∈ l, p e) :
    let sorted := l.foldl (fun sorted e => insertSorted e.1 e.2 sorted) []
    sorted.Pairwise (·.1 < ·.1) ∧ ∀ e ∈ sorted, p e := by
  refine List.foldlRecOn l _ (motive := fun sorted : KeyedList α =>
    sorted.Pairwise (·.1 < ·.1) ∧ ∀ e ∈ sorted, p e) ⟨.nil, nofun⟩ ?_
  rintro sorted ⟨hsorted, hp⟩ e he
  refine ⟨pairwise_insertSorted hsorted e.1 e.2, fun b hb => ?_⟩
  rcases mem_of_mem_insertSorted hb with rfl | hb
  · exact h e he
  · exact hp b hb

theorem foldl_insertSorted_of_pairwise {l : KeyedList α} (h : l.Pairwise (·.1 < ·.1)) :
    l.foldl (fun sorted e => insertSorted e.1 e.2 sorted) [] = l :=
  foldl_eq_append (f := fun sorted e => insertSorted e.1 e.2 sorted)
    (fun _ _ => insertSorted_eq_append) h

end

namespace Value

/-- The value is nested no deeper than this, and the members of its objects are sorted. -/
inductive Fits : (room : Nat) → Value → Prop
  | null {room : Nat} : Fits room .null
  | bool {room : Nat} (b : Bool) : Fits room (.bool b)
  | number {room : Nat} (n : Number) : Fits room (.number n)
  | text {room : Nat} (s : String) : Fits room (.text s)
  | array {room : Nat} {items : List Value} (h : ∀ v ∈ items, v.Fits room) :
    Fits (room + 1) (.array items)
  | object {room : Nat} {members : List (String × Value)}
    (hsorted : members.Pairwise (·.1 < ·.1)) (h : ∀ m ∈ members, m.2.Fits room) :
    Fits (room + 1) (.object members)

end Value

theorem bind_eq_ok_iff {ε α β : Type} {x : Except ε α} {f : α → Except ε β} {b : β} :
    x >>= f = .ok b ↔ ∃ a, x = .ok a ∧ f a = .ok b := by
  cases x <;> simp [bind, Except.bind]

mutual

/-- What is read fits. -/
theorem fits_of_decodeValue {room : Nat} {v : Value} :
    ∀ {node : Node}, decodeValue room node = .ok v → v.Fits room
  | .null, h => by cases h; exact .null
  | .bool b, h => by cases h; exact .bool b
  | .number n, h => by
    rw [decodeValue] at h
    split at h
    · cases h; exact .number _
    · cases h
  | .text (some s), h => by cases h; exact .text s
  | .text none, h => by cases h
  | .array items defect, h => by
    cases room with
    | zero => cases h
    | succ room =>
      simp only [decodeValue, bind_eq_ok_iff] at h
      obtain ⟨vs, hvs, -, -, hv⟩ := h
      cases hv
      exact .array (fits_of_decodeItems hvs)
  | .object members defect, h => by
    cases room with
    | zero => cases h
    | succ room =>
      simp only [decodeValue, bind_eq_ok_iff] at h
      obtain ⟨ms, hms, -, -, hv⟩ := h
      cases hv
      obtain ⟨hsorted, hfits⟩ := foldl_insertSorted_spec (fun m : String × Value => m.2.Fits room)
        (fits_of_decodeMembers hms)
      exact .object hsorted hfits
  | .broken d, h => by cases h

theorem fits_of_decodeItems {room : Nat} {vs : List Value} :
    ∀ {nodes : List Node}, decodeItems room nodes = .ok vs → ∀ v ∈ vs, v.Fits room
  | [], h => by cases h; exact fun _ h => nomatch h
  | node :: nodes, h => by
    simp only [decodeItems, bind_eq_ok_iff] at h
    obtain ⟨v, hv, vs', hvs, heq⟩ := h
    cases heq
    exact List.forall_mem_cons.mpr ⟨fits_of_decodeValue hv, fits_of_decodeItems hvs⟩

theorem fits_of_decodeMembers {room : Nat} {ms : List (String × Value)} :
    ∀ {members : List (TextToken × Node)}, decodeMembers room members = .ok ms →
      ∀ m ∈ ms, m.2.Fits room
  | [], h => by cases h; exact fun _ h => nomatch h
  | (none, _) :: _, h => by cases h
  | (some k, node) :: members, h => by
    simp only [decodeMembers, bind_eq_ok_iff] at h
    obtain ⟨v, hv, ms', hms, heq⟩ := h
    cases heq
    exact List.forall_mem_cons.mpr ⟨fits_of_decodeValue hv, fits_of_decodeMembers hms⟩

end

theorem decodeItems_itemNodes {room : Nat} {vs : List Value}
    (h : ∀ v ∈ vs, decodeValue room v.node = .ok v) :
    decodeItems room (Value.itemNodes vs) = .ok vs := by
  induction vs with
  | nil => rfl
  | cons v vs ih =>
    obtain ⟨hv, hvs⟩ := List.forall_mem_cons.mp h
    rw [Value.itemNodes, decodeItems, hv, ih hvs]
    rfl

theorem decodeMembers_memberNodes {room : Nat} {ms : List (String × Value)}
    (h : ∀ m ∈ ms, decodeValue room m.2.node = .ok m.2) :
    decodeMembers room (Value.memberNodes ms) = .ok ms := by
  induction ms with
  | nil => rfl
  | cons m ms ih =>
    obtain ⟨hm, hms⟩ := List.forall_mem_cons.mp h
    rw [Value.memberNodes, decodeMembers, hm, ih hms]
    rfl

/-- What fits is read back from its tree. -/
theorem decodeValue_node {v : Value} (h : v.Integral) {room : Nat} (hfits : v.Fits room) :
    decodeValue room v.node = .ok v := by
  induction h generalizing room with
  | null => rfl
  | bool b => rfl
  | number hlow hhigh => rw [Value.node, decodeValue, Numeral.value?_ofInteger hlow hhigh]
  | text s => rfl
  | array h ih =>
    cases hfits with
    | array hfits =>
      rw [Value.node, decodeValue, decodeItems_itemNodes fun v hv => ih v hv (hfits v hv)]
      rfl
  | object h ih =>
    cases hfits with
    | object hsorted hfits =>
      rw [Value.node, decodeValue, decodeMembers_memberNodes fun m hm => ih m hm (hfits m hm)]
      exact congrArg (Except.ok <| Value.object ·) (foldl_insertSorted_of_pairwise hsorted)

end Json

end AbapNaming
