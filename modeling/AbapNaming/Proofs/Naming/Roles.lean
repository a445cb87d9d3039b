import AbapNaming.Proofs.Naming.Collisions

/-! # Roles keep identifiers apart

However much of a candidate is cut, its identifier begins with its tag, or with a part of it and
then a digit. No tag has a digit, so an identifier in one role of a request is never one in
another role.
-/

namespace AbapNaming

open PathTemplate

/-- The text begins with the tag, or with a part of it and then a digit. -/
def BeginsTagged (tag cs : List Char) : Prop :=
  tag <+: cs ∨ ∃ k < tag.length, ∃ c rest, c.isDigit = true ∧ cs = tag.take k ++ c :: rest

namespace BeginsTagged

variable {tag other cs : List Char}

theorem eq_of_prefix (h : BeginsTagged tag cs) (hother : other <+: cs)
    (hlength : other.length = tag.length) (hletters : ∀ c ∈ other, c.isDigit = false) :
    tag = other := by
  rcases h with htag | ⟨k, hk, c, rest, hdigit, rfl⟩
  · exact (List.prefix_of_prefix_length_le htag hother hlength.ge).eq_of_length hlength.symm
  · have hsame : other[k] = c := by
      rw [hother.getElem (by omega)]
      simp [List.getElem_append_right, hk.le]
    have hletter := hletters _ (List.getElem_mem (by omega : k < other.length))
    rw [hsame, hdigit] at hletter
    cases hletter

theorem head_eq {c : Char} (h : BeginsTagged (c :: tag) cs) :
    ∃ first rest, cs = first :: rest ∧ (first = c ∨ first.isDigit = true) := by
  rcases h with ⟨rest, rfl⟩ | ⟨k, -, digit, rest, hdigit, rfl⟩
  · exact ⟨c, tag ++ rest, rfl, .inl rfl⟩
  · cases k with
    | zero => exact ⟨digit, rest, rfl, .inr hdigit⟩
    | succ k => exact ⟨c, tag.take k ++ digit :: rest, rfl, .inl rfl⟩

end BeginsTagged

namespace Role

/-- The roles that parameters have in a request. -/
def request : List Role := [.queryTable, .queryValue, .pathTable, .pathValue]

theorem mem_request {placement : Placement} {isArray : Bool} {role : Role}
    (h : ofParameter? placement isArray = some role) : role ∈ request := by
  cases placement <;> cases isArray <;> simp_all [ofParameter?, request]

theorem request_tags : ∀ role ∈ request, role.tag.toList.length = 5 ∧
    role.tag.toList.head? = some 'i' ∧ (role.tag.toList.all fun c => !c.isDigit) = true := by
  decide +kernel

theorem request_letters {role : Role} (hrole : role ∈ request) :
    ∀ c ∈ role.tag.toList, c.isDigit = false := by
  simpa using (request_tags role hrole).2.2

theorem request_tag_inj : ∀ role ∈ request, ∀ other ∈ request,
    role.tag.toList = other.tag.toList → role = other := by
  decide +kernel

end Role

namespace Naming

variable {n : Naming}

theorem toList_candidate (name tag : String) :
    (candidate name tag).toList = tag.toList ++ (Snake.ofName name).toList := by
  rw [candidate, String.toList_append]

theorem toList_fitted_of_long {whole : String} (h : n.isLong whole = true) :
    (n.fitted whole).toList =
      whole.toList.take n.buckets.trimLength ++ suffixDigits (n.buckets.position whole) := by
  rw [fitted_of_long h, Buckets.toList_shortForm, Buckets.key, String.toList_ofList]

theorem beginsTagged_fitted (n : Naming) (name tag : String) :
    BeginsTagged tag.toList (n.fitted (candidate name tag)).toList := by
  cases hlong : n.isLong (candidate name tag) with
  | false =>
    rw [fitted_of_short hlong, toList_candidate]
    exact .inl (List.prefix_append _ _)
  | true =>
    rw [toList_fitted_of_long hlong, toList_candidate]
    by_cases hcut : n.buckets.trimLength < tag.toList.length
    · rw [List.take_append_of_le_length hcut.le]
      cases hdigits : suffixDigits (n.buckets.position (candidate name tag)) with
      | nil =>
        have hwidth := suffixWidth_le_length (n.buckets.position (candidate name tag))
        rw [hdigits] at hwidth
        exact absurd hwidth (by decide)
      | cons c rest =>
        have hdigit : c.isDigit = true := isDigit_of_mem_suffixDigits (by rw [hdigits]; simp)
        exact .inr ⟨_, hcut, c, rest, hdigit, rfl⟩
    · rw [List.take_append, List.take_of_length_le (by omega), List.append_assoc]
      exact .inl (List.prefix_append _ _)

section

variable {role other : Role} (hrole : role ∈ Role.request) (hother : other ∈ Role.request)
  {a b : String}

include hrole hother

theorem MeetsCut.role_eq (h : n.MeetsCut (candidate a role.tag) (candidate b other.tag)) :
    role = other := by
  obtain ⟨-, -, hkept⟩ := h
  have hbegins := n.beginsTagged_fitted a role.tag
  rw [← hkept, toList_candidate] at hbegins
  obtain ⟨hlength, -, -⟩ := Role.request_tags role hrole
  obtain ⟨hlength', -, -⟩ := Role.request_tags other hother
  refine Role.request_tag_inj role hrole other hother ?_
  exact hbegins.eq_of_prefix (List.prefix_append _ _) (hlength'.trans hlength.symm)
    (Role.request_letters hother)

omit hrole in
/-- No identifier of a request begins with an underscore that was not put there. -/
theorem not_meetsEscaped {escaped : String} :
    ¬ n.MeetsEscaped escaped (candidate b other.tag) := by
  rintro ⟨-, -, hspelt⟩
  have hbegins := n.beginsTagged_fitted b other.tag
  obtain ⟨-, hhead, -⟩ := Role.request_tags other hother
  obtain ⟨rest, htag⟩ := List.head?_eq_some_iff.mp hhead
  rw [htag, hspelt, String.toList_append] at hbegins
  obtain ⟨first, rest', hfirst, hcases⟩ := hbegins.head_eq
  obtain ⟨rfl, -⟩ := List.cons.inj hfirst
  exact absurd hcases (by decide)

/-- What has one identifier has one role. -/
theorem role_eq_of_identifier_eq (hkeyed : n.buckets.Keyed)
    (hplain : n.reserved.replacements = []) (ha : n.Holds (candidate a role.tag))
    (h : n.identifier role a = n.identifier other b) : role = other := by
  -- A name with a place settles what is cut; the tags settle all else.
  rcases (identified_eq_iff hkeyed hplain ha).mp h with
    hsame | ⟨-, hmeets | hmeets⟩ | hmeets | hmeets
  · have htags := congrArg String.toList hsame
    rw [toList_candidate, toList_candidate] at htags
    have hlength := (Role.request_tags role hrole).1.trans (Role.request_tags other hother).1.symm
    exact Role.request_tag_inj role hrole other hother (List.append_inj_left htags hlength)
  · exact hmeets.role_eq hrole hother
  · exact (hmeets.role_eq hother hrole).symm
  · exact absurd hmeets (not_meetsEscaped hother)
  · exact absurd hmeets (not_meetsEscaped hrole)

end

theorem mem_of_mem_fitted {b : Char} {whole : String} (hb : b.isDigit = false)
    (h : b ∈ (n.fitted whole).toList) : b ∈ whole.toList := by
  cases hlong : n.isLong whole with
  | false => rwa [fitted_of_short hlong] at h
  | true =>
    rw [toList_fitted_of_long hlong, List.mem_append] at h
    rcases h with hkey | hdigit
    · exact List.mem_of_mem_take hkey
    · rw [isDigit_of_mem_suffixDigits hdigit] at hb
      cases hb

theorem mem_of_mem_identified (hplain : n.reserved.replacements = []) {b : Char} {whole : String}
    (hb : b.isDigit = false) (hunderscore : b ≠ '_') (h : b ∈ (n.identified whole).toList) :
    b ∈ whole.toList := by
  cases hescapes : n.escapes whole with
  | false =>
    rw [identified_of_plain hescapes] at h
    exact mem_of_mem_fitted hb h
  | true =>
    rw [identified_of_escapes hescapes, Reserved.escape_of_no_replacements hplain,
      String.toList_append, List.mem_append] at h
    rcases h with hfront | hfitted
    · exact absurd (List.mem_singleton.mp hfront) hunderscore
    · exact mem_of_mem_fitted hb hfitted

/-- Without chosen spellings an identifier has no brace if its candidate has none. -/
theorem isPlain_identified (hplain : n.reserved.replacements = []) {whole : String}
    (h : IsPlain whole.toList) : IsPlain (n.identified whole).toList :=
  ⟨mt (mem_of_mem_identified hplain (by decide) (by decide)) h.1,
    mt (mem_of_mem_identified hplain (by decide) (by decide)) h.2⟩

/-- So no identifier that is put into a path has one. -/
theorem isPlain_afterTokens (hplain : n.reserved.replacements = []) (t : Template) {token : String}
    (h : token ∈ t.tokens) : IsPlain ((n.afterTokens t.tokens).pathIdentifier token).toList := by
  have hlast : (n.afterTokens t.tokens).reserved.replacements = [] := by
    rw [(n.extends_afterTokens t.tokens).reserved_eq, hplain]
  exact isPlain_identified hlast (isPlain_pathCandidate (t.token_plain h))

end Naming

end AbapNaming
