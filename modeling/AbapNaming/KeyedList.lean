/-! # Lists of named entries

A keyed list holds its entries in the order in which their keys first came. A new value for a
known key takes the place of the old one, so the order of the keys never changes.
-/

namespace AbapNaming

abbrev KeyedList (α : Type) := List (String × α)

namespace KeyedList

def keys {α : Type} (l : KeyedList α) : List String := l.map Prod.fst

def get? {α : Type} : KeyedList α → String → Option α
  | [], _ => none
  | e :: rest, k => if e.1 = k then some e.2 else get? rest k

/-- Gives `k` the value `v`: in place where the key is known, at the end where it is new. -/
def insert {α : Type} (l : KeyedList α) (k : String) (v : α) : KeyedList α :=
  match l with
  | [] => [(k, v)]
  | (k', v') :: rest => if k' = k then (k, v) :: rest else (k', v') :: insert rest k v

@[simp] theorem get?_nil {α : Type} (k : String) : get? ([] : KeyedList α) k = none := rfl

@[simp] theorem get?_cons {α : Type} (e : String × α) (l : KeyedList α) (k : String) :
    get? (e :: l) k = if e.1 = k then some e.2 else get? l k := rfl

@[simp] theorem get?_insert {α : Type} (l : KeyedList α) (k k' : String) (v : α) :
    get? (insert l k v) k' = if k = k' then some v else get? l k' := by
  induction l with
  | nil => simp [insert]
  | cons e rest ih =>
    by_cases h : e.1 = k
    · by_cases h' : k = k' <;> simp [insert, h, h']
    · by_cases h' : k = k'
      · subst h'; simp [insert, h, ih]
      · simp [insert, h, h', ih]

theorem get?_append {α : Type} (l l' : KeyedList α) (k : String) :
    get? (l ++ l') k = (get? l k).or (get? l' k) := by
  induction l with
  | nil => simp
  | cons e l ih =>
    rw [List.cons_append, get?_cons, get?_cons, ih]
    by_cases h : e.1 = k <;> simp [h]

theorem mem_of_get?_eq_some {α : Type} {l : KeyedList α} {k : String} {v : α}
    (h : get? l k = some v) : (k, v) ∈ l := by
  induction l with
  | nil => cases h
  | cons e rest ih =>
    rw [get?_cons] at h
    split at h
    · rename_i hk
      rw [← hk, ← Option.some.inj h]
      exact List.mem_cons_self
    · exact List.mem_cons_of_mem e (ih h)

theorem get?_eq_none_iff {α : Type} {l : KeyedList α} {k : String} :
    get? l k = none ↔ k ∉ keys l := by
  induction l with
  | nil => simp [keys]
  | cons e rest ih =>
    by_cases h : e.1 = k
    · simp [keys, h]
    · rw [get?_cons, if_neg h, ih]
      simp [keys, Ne.symm h]

theorem mem_of_mem_insert {α : Type} {l : KeyedList α} {k : String} {v : α} {e : String × α}
    (h : e ∈ insert l k v) : e = (k, v) ∨ e ∈ l := by
  induction l with
  | nil => exact .inl (List.mem_singleton.mp h)
  | cons e' rest ih =>
    rw [insert] at h
    split at h
    · exact (List.mem_cons.mp h).imp id (List.mem_cons_of_mem e')
    · rcases List.mem_cons.mp h with rfl | h
      · exact .inr List.mem_cons_self
      · exact (ih h).imp id (List.mem_cons_of_mem e')

/-- Known keys stay where they are and a new one comes last. -/
theorem keys_insert {α : Type} (l : KeyedList α) (k : String) (v : α) :
    keys (insert l k v) = if k ∈ keys l then keys l else keys l ++ [k] := by
  induction l with
  | nil => simp [insert, keys]
  | cons e rest ih =>
    by_cases h : e.1 = k
    · simp [insert, keys, h]
    · have h' : k ≠ e.1 := fun h' => h h'.symm
      simp only [keys] at ih
      by_cases hm : k ∈ rest.map Prod.fst <;> simp_all [insert, keys]

theorem keys_prefix_insert {α : Type} (l : KeyedList α) (k : String) (v : α) :
    keys l <+: keys (insert l k v) := by
  rw [keys_insert]
  split
  · exact List.prefix_rfl
  · exact List.prefix_append _ _

end KeyedList

end AbapNaming
