import AbapNaming.Proofs.Identifier.Buckets

/-! # Identifiers stay what they are

Edits only add names to the buckets. A candidate that was fitted once, or that needs no place in
a bucket, is fitted the same way by every later state, and so escaped the same way. The type codes
have nothing to do with any of this.
-/

namespace AbapNaming.Naming

/-- The later state has the same limits and reserved words and holds more names. -/
structure Extends (n n' : Naming) : Prop where
  limits_eq : n'.limits = n.limits
  reserved_eq : n'.reserved = n.reserved
  buckets : n.buckets.Extends n'.buckets

/-- The candidate has its place, if it needs one. -/
def Holds (n : Naming) (whole : String) : Prop := n.isLong whole = true → n.buckets.Holds whole

theorem Extends.refl (n : Naming) : n.Extends n := ⟨rfl, rfl, Buckets.Extends.refl _⟩

theorem Extends.trans {n n' n'' : Naming} (h : n.Extends n') (h' : n'.Extends n'') :
    n.Extends n'' :=
  ⟨h'.limits_eq.trans h.limits_eq, h'.reserved_eq.trans h.reserved_eq, h.buckets.trans h'.buckets⟩

theorem Extends.isLong_eq {n n' : Naming} (h : n.Extends n') (whole : String) :
    n'.isLong whole = n.isLong whole := by
  rw [isLong, isLong, h.limits_eq]

theorem Extends.holds {n n' : Naming} (h : n.Extends n') {whole : String} (hn : n.Holds whole) :
    n'.Holds whole := by
  intro hlong
  rw [h.isLong_eq] at hlong
  exact h.buckets.holds (hn hlong)

section

variable {n : Naming} {whole : String}

theorem fitted_of_long (h : n.isLong whole = true) : n.fitted whole = n.buckets.shortForm whole :=
  if_pos h

theorem fitted_of_short (h : n.isLong whole = false) : n.fitted whole = whole :=
  if_neg (Bool.not_eq_true _ ▸ h)

theorem bucketsWith_of_long (h : n.isLong whole = true) :
    n.bucketsWith whole = n.buckets.add whole :=
  if_pos h

theorem bucketsWith_of_short (h : n.isLong whole = false) : n.bucketsWith whole = n.buckets :=
  if_neg (Bool.not_eq_true _ ▸ h)

end

theorem Extends.fitted_eq {n n' : Naming} (h : n.Extends n') {whole : String}
    (hn : n.Holds whole) : n'.fitted whole = n.fitted whole := by
  have hlong' := h.isLong_eq whole
  cases hlong : n.isLong whole with
  | true =>
    rw [fitted_of_long (hlong'.trans hlong), fitted_of_long hlong, h.buckets.shortForm_eq (hn hlong)]
  | false => rw [fitted_of_short (hlong'.trans hlong), fitted_of_short hlong]

/-- What an edit gives is read off from how the candidate is fitted. -/
theorem Extends.edit_eq_of_fitted_eq {n n' : Naming} (h : n.Extends n') {name tag : String}
    (hfitted : n'.fitted (candidate name tag) = n.fitted (candidate name tag)) :
    (n'.edit name tag).1 = (n.edit name tag).1 := by
  simp only [edit, hfitted, h.reserved_eq, h.isLong_eq]

/-- A name that was edited before gets the same identifier again, by the same rules. -/
theorem Extends.edit_eq {n n' : Naming} (h : n.Extends n') {name tag : String}
    (hn : n.Holds (candidate name tag)) : (n'.edit name tag).1 = (n.edit name tag).1 :=
  h.edit_eq_of_fitted_eq (h.fitted_eq hn)

theorem buckets_edit (n : Naming) (name tag : String) :
    (n.edit name tag).2.buckets = n.bucketsWith (candidate name tag) := rfl

theorem extends_edit (n : Naming) (name tag : String) : n.Extends (n.edit name tag).2 where
  limits_eq := rfl
  reserved_eq := rfl
  buckets := by
    rw [buckets_edit]
    cases hlong : n.isLong (candidate name tag) with
    | true =>
      rw [bucketsWith_of_long hlong]
      exact Buckets.extends_add _ _
    | false =>
      rw [bucketsWith_of_short hlong]
      exact Buckets.Extends.refl _

theorem holds_edit (n : Naming) (name tag : String) :
    (n.edit name tag).2.Holds (candidate name tag) := by
  intro hlong
  rw [(n.extends_edit name tag).isLong_eq] at hlong
  rw [buckets_edit, bucketsWith_of_long hlong]
  exact Buckets.holds_add _ _

theorem fitted_edit (n : Naming) (name tag : String) :
    (n.edit name tag).2.fitted (candidate name tag) = n.fitted (candidate name tag) := by
  have hlong' := (n.extends_edit name tag).isLong_eq (candidate name tag)
  cases hlong : n.isLong (candidate name tag) with
  | true =>
    rw [fitted_of_long (hlong'.trans hlong), fitted_of_long hlong, buckets_edit,
      bucketsWith_of_long hlong, Buckets.shortForm_add]
  | false => rw [fitted_of_short (hlong'.trans hlong), fitted_of_short hlong]

theorem edit_edit (n : Naming) (name tag : String) :
    ((n.edit name tag).2.edit name tag).1 = (n.edit name tag).1 :=
  (n.extends_edit name tag).edit_eq_of_fitted_eq (n.fitted_edit name tag)

/-- All states after an edit give the name the identifier that it got then. -/
theorem Extends.edit_eq_of_edited {n n' : Naming} {name tag : String}
    (h : (n.edit name tag).2.Extends n') : (n'.edit name tag).1 = (n.edit name tag).1 :=
  (h.edit_eq (n.holds_edit name tag)).trans (n.edit_edit name tag)

theorem types_edit (n : Naming) (name tag : String) : (n.edit name tag).2.types = n.types :=
  rfl

end AbapNaming.Naming
