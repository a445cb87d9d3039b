import AbapNaming.Proofs.Pipeline.Notes
import AbapNaming.Proofs.Pipeline.Placeholders

/-! # Which changes of names are told

A name that is edited in a call of its own has its site, and the site tells whether it was cut or
escaped. A placeholder has no site: the path is rendered without notes. So what became of one is
told only where a site has the same name and the same identifier.
-/

namespace AbapNaming

/-! ## Names and calls -/

def Call.named? : Call → Option (String × String)
  | .edit name tag => some (name, tag)
  | .intern _ _ => none
  | .path _ => none

def NameSite.named (s : NameSite) : String × String := (s.name, s.role.tag)

theorem Call.named_ofType (types : List String) : (types.map ofType).filterMap named? = [] := by
  simp [ofType, named?]

theorem Property.named_calls (location : String) (p : Property) :
    p.calls.filterMap Call.named? = [(p.site location).named] := by
  rw [calls, List.filterMap_append, List.filterMap_append, Call.named_ofType, Call.named_ofType]
  rfl

theorem Model.named_calls (m : Model) :
    m.calls.filterMap Call.named? = m.sites.map NameSite.named := by
  rw [calls, List.filterMap_append, List.filterMap_flatMap, sites, List.map_map,
    List.map_eq_flatMap]
  simp only [Property.named_calls m.location]
  exact List.append_nil _

theorem Parameter.named_calls (operation : String) (p : Parameter) :
    p.calls.filterMap Call.named? = (p.sites operation).map NameSite.named := by
  rw [calls, List.filterMap_append, List.filterMap_append, Call.named_ofType, sites]
  cases Role.ofParameter? p.placement p.isArray <;> rfl

theorem Operation.named_calls (group : String) (o : Operation) :
    o.calls.filterMap Call.named? = (o.sites group).map NameSite.named := by
  simp only [calls, fieldCalls, sites, List.filterMap_append, List.filterMap_flatMap,
    List.map_append, List.map_flatMap, Call.named_ofType,
    Parameter.named_calls (o.locationIn group)]
  exact List.append_nil _

theorem ApiGroup.named_calls (a : ApiGroup) :
    a.calls.filterMap Call.named? = a.sites.map NameSite.named := by
  simp only [calls, sites, List.filterMap_append, List.filterMap_flatMap,
    Operation.named_calls a.location, List.map_append, List.map_flatMap]
  rfl

/-- The names that a run edits in calls of their own are those at the sites, in the same order. -/
theorem Descriptor.named_calls (d : Descriptor) :
    d.calls.filterMap Call.named? = d.sites.map NameSite.named := by
  simp only [calls, sites, List.filterMap_append, List.filterMap_flatMap, Model.named_calls,
    ApiGroup.named_calls, List.map_append, List.map_flatMap]

theorem Descriptor.exists_site {d : Descriptor} {name tag : String} (h : .edit name tag ∈ d.calls) :
    ∃ s ∈ d.sites, s.name = name ∧ s.role.tag = tag := by
  have hnamed : (name, tag) ∈ d.calls.filterMap Call.named? :=
    List.mem_filterMap.mpr ⟨_, h, rfl⟩
  rw [named_calls] at hnamed
  obtain ⟨s, hs, hsame⟩ := List.mem_map.mp hnamed
  exact ⟨s, hs, Prod.mk.inj hsame⟩

theorem Naming.tag_of_mem_tokenEditings {n : Naming} {tokens : List String} {x : Editing}
    (hx : x ∈ n.tokenEditings tokens) : x.tag = Role.pathValue.tag := by
  induction tokens generalizing n with
  | nil => exact absurd hx List.not_mem_nil
  | cons token tokens ih =>
    rcases List.mem_cons.mp hx with rfl | hx
    · rfl
    · exact ih hx

theorem Naming.mem_editings_cases {n : Naming} {calls : List Call} {x : Editing}
    (hx : x ∈ n.editings calls) : .edit x.name x.tag ∈ calls ∨ x.tag = Role.pathValue.tag := by
  induction calls generalizing n with
  | nil => exact absurd hx List.not_mem_nil
  | cons c calls ih =>
    rcases List.mem_append.mp hx with hx | hx
    · cases c with
      | edit name tag =>
        rw [List.mem_singleton.mp hx]
        exact .inl List.mem_cons_self
      | intern name tag => exact absurd hx List.not_mem_nil
      | path path => exact .inr (tag_of_mem_tokenEditings hx)
    · exact (ih hx).imp_left (List.mem_cons_of_mem c)

/-! ## What a note says -/

/-- Was anything done to fit the identifier? -/
def Edited.Changed (e : Edited) : Prop := e.truncated = true ∨ e.escaped = true

/-- The diagnostic tells that the name became the identifier. -/
def Diagnostic.Tells (x : Diagnostic) (name identifier : String) : Prop :=
  x.severity = .info ∧ ∃ verb ∈ ["shortened", "escaped"],
    x.message = "'" ++ name ++ "' " ++ verb ++ " to '" ++ identifier ++ "'"

theorem editNotes_eq_nil_iff {phase location name : String} {e : Edited} :
    editNotes phase location name e = [] ↔ ¬ e.Changed := by
  simp [editNotes, Edited.Changed]

theorem tells_of_mem_editNotes {phase location name : String} {e : Edited} {x : Diagnostic}
    (hx : x ∈ editNotes phase location name e) : x.Tells name e.value := by
  simp only [editNotes, List.mem_append, List.mem_ite_nil_right, List.mem_singleton] at hx
  rcases hx with ⟨-, rfl⟩ | ⟨-, rfl⟩
  · exact ⟨rfl, "shortened", List.mem_cons_self, String.toList_injective (by simp)⟩
  · exact ⟨rfl, "escaped", List.mem_cons_of_mem _ List.mem_cons_self,
      String.toList_injective (by simp)⟩

theorem eq_of_append_space {front front' last last' : List Char} (h : ' ' ∉ last) (h' : ' ' ∉ last')
    (heq : front ++ ' ' :: last = front' ++ ' ' :: last') : front = front' ∧ last = last' := by
  rcases List.append_eq_append_iff.mp heq with ⟨between, hfront, hrest⟩ | ⟨between, hfront, hrest⟩
  all_goals
    cases between with
    | nil => simp_all
    | cons c between =>
      obtain ⟨-, rfl⟩ := List.cons.inj hrest
      simp at h h'

/-- A note tells of one name and one identifier, as long as the identifiers have no spaces. -/
theorem Diagnostic.Tells.inj {x : Diagnostic} {a b v w : String} (h : x.Tells a v)
    (h' : x.Tells b w) (hv : ' ' ∉ v.toList) (hw : ' ' ∉ w.toList) : a = b ∧ v = w := by
  obtain ⟨-, verb, hverb, hmessage⟩ := h
  obtain ⟨-, verb', hverb', hmessage'⟩ := h'
  have hwords : ∀ verb ∈ ["shortened", "escaped"], ' ' ∉ verb.toList := by decide
  -- The identifier is the last of the words, and the verb is the third of them from the end.
  have hsplit (name verb identifier : String) :
      ("'" ++ name ++ "' " ++ verb ++ " to '" ++ identifier ++ "'").toList =
        ((("'" ++ name ++ "'").toList ++ ' ' :: verb.toList) ++ ' ' :: "to".toList) ++
          ' ' :: ("'" ++ identifier ++ "'").toList := by
    simp
  have heq := congrArg String.toList (hmessage.symm.trans hmessage')
  rw [hsplit, hsplit] at heq
  obtain ⟨hfront, hlast⟩ := eq_of_append_space (by simpa using hv) (by simpa using hw) heq
  obtain ⟨hfront, -⟩ := eq_of_append_space (by decide) (by decide) hfront
  obtain ⟨hfront, -⟩ := eq_of_append_space (hwords verb hverb) (hwords verb' hverb') hfront
  constructor
  · exact String.toList_injective (by simpa using hfront)
  · exact String.toList_injective (by simpa using hlast)

/-! ## Which changes are told -/

/-- A diagnostic tells what became of the name. -/
def Editing.Told (x : Editing) (ds : List Diagnostic) : Prop :=
  ∃ note ∈ ds, note.Tells x.name x.outcome.value

/-- The same name stands at this site, and there it was changed into the same identifier. -/
def NameSite.Explains (n : Naming) (x : Editing) (s : NameSite) : Prop :=
  s.name = x.name ∧ (n.edit s.name s.role.tag).1.value = x.outcome.value ∧
    (n.edit s.name s.role.tag).1.Changed

/-- No name and no identifier are told of in the summary. -/
theorem Run.not_tells_summary (r : Run) (name identifier : String) :
    ¬ (⟨.info, supportingPhase, r.summary, none⟩ : Diagnostic).Tells name identifier := by
  rintro ⟨-, verb, -, hmessage : r.summary = _⟩
  obtain ⟨counts, hcounts⟩ := r.summary_eq_append
  have hhead := congrArg (fun s => s.toList.head?) (hcounts.symm.trans hmessage)
  simp at hhead

theorem Role.space_notMem_tag (role : Role) : ' ' ∉ role.tag.toList := by
  cases role <;> decide

theorem Naming.space_notMem_identifier {n : Naming} (hplain : n.reserved.replacements = [])
    (role : Role) (name : String) : ' ' ∉ (n.edit name role.tag).1.value.toList := by
  intro h
  have hmem := mem_of_mem_identified hplain (by decide) (by decide) h
  rw [toList_candidate, List.mem_append] at hmem
  exact hmem.elim role.space_notMem_tag (Snake.space_notMem_ofName name)

theorem NameSite.explains_of_named {n : Naming} {x : Editing} {s : NameSite}
    (hlast : x.next.Extends n) (hname : s.name = x.name) (htag : s.role.tag = x.tag)
    (hchanged : x.outcome.Changed) : s.Explains n x := by
  refine ⟨hname, ?_⟩
  rw [hname, htag, Naming.outcome_of_extends hlast]
  exact ⟨rfl, hchanged⟩

theorem NameSite.Explains.told {d : Descriptor} {n : Naming} {x : Editing} {s : NameSite}
    (h : s.Explains n x) (hs : s ∈ d.sites) : x.Told (d.sites.flatMap (NameSite.notes n)) := by
  obtain ⟨hname, hvalue, hchanged⟩ := h
  obtain ⟨note, hnote⟩ := List.exists_mem_of_ne_nil (s.notes n)
    fun hnil => editNotes_eq_nil_iff.mp hnil hchanged
  refine ⟨note, List.mem_flatMap_of_mem hs hnote, ?_⟩
  rw [← hname, ← hvalue]
  exact tells_of_mem_editNotes hnote

/-- In a run that goes through, a name that was cut or escaped in a call of its own is told of. What
became of a placeholder is told by a site that has the same name and the same identifier; chosen
spellings apart, it is told of by nothing else. -/
theorem runBuiltin_told_iff {d : Descriptor} {c : Config} {r : Run}
    (h : runBuiltin (Run.start d c) = (r, none)) {x : Editing}
    (hx : x ∈ c.naming.start.editings d.calls) (hchanged : x.outcome.Changed) :
    ((∃ s ∈ d.sites, s.Explains r.naming x) → x.Told r.diagnostics) ∧
    (c.naming.replacements = [] →
      (x.Told r.diagnostics ↔ ∃ s ∈ d.sites, s.Explains r.naming x)) ∧
    (.edit x.name x.tag ∈ d.calls → ∃ s ∈ d.sites, s.Explains r.naming x) := by
  have hlast : x.next.Extends r.naming := by
    rw [(runBuiltin_names h).1]
    exact Naming.extends_of_mem_editings hx
  have houtcome := Naming.outcome_of_extends hlast
  have hdiagnostics := runBuiltin_diagnostics h
  have htold : (∃ s ∈ d.sites, s.Explains r.naming x) → x.Told r.diagnostics := by
    rintro ⟨s, hs, hexplains⟩
    obtain ⟨note, hnote, htells⟩ := hexplains.told hs
    rw [hdiagnostics]
    exact ⟨note, List.mem_append_left _ (List.mem_append_right _ hnote), htells⟩
  have hown : .edit x.name x.tag ∈ d.calls → ∃ s ∈ d.sites, s.Explains r.naming x := by
    intro hcall
    obtain ⟨s, hs, hname, htag⟩ := Descriptor.exists_site hcall
    exact ⟨s, hs, NameSite.explains_of_named hlast hname htag hchanged⟩
  refine ⟨htold, fun hplain => ⟨fun ⟨note, hnote, htells⟩ => ?_, htold⟩, hown⟩
  have hreserved := runBuiltin_replacements h hplain
  obtain ⟨role, hrole⟩ : ∃ role : Role, x.tag = role.tag := by
    rcases Naming.mem_editings_cases hx with hcall | htag
    · obtain ⟨s, -, -, htag⟩ := Descriptor.exists_site hcall
      exact ⟨s.role, htag.symm⟩
    · exact ⟨.pathValue, htag⟩
  have hspace : ' ' ∉ x.outcome.value.toList := by
    rw [← houtcome, hrole]
    exact Naming.space_notMem_identifier hreserved role x.name
  -- Neither a finding nor the summary tells of a name, so the note is one of a site.
  rw [hdiagnostics, List.mem_append, List.mem_append, List.mem_singleton] at hnote
  rcases hnote with (hfound | hnote) | rfl
  · exact absurd htells.1 (lintAll_severity d note hfound)
  · obtain ⟨s, hs, hnote⟩ := List.mem_flatMap.mp hnote
    obtain ⟨hname, hvalue⟩ := (tells_of_mem_editNotes hnote).inj htells
      (Naming.space_notMem_identifier hreserved s.role s.name) hspace
    have hsome : s.notes r.naming ≠ [] := List.ne_nil_of_mem hnote
    exact ⟨s, hs, hname, hvalue, not_not.mp (mt editNotes_eq_nil_iff.mpr hsome)⟩
  · exact absurd htells (r.not_tells_summary _ _)

/-- The first placeholder has a parameter and the second one has none. -/
def strayPets : Descriptor where
  apis := [{
    classname := "Pets"
    operations := [{
      operationId := "find"
      path := "/pets/\x7bpetName\x7d/\x7bid\x7d"
      params := [{ baseName := "petName", isPath := true }] }] }]

/-- The first placeholder is cut, and the note on its parameter tells so; the second one is
escaped, and nothing tells of it. -/
theorem runBuiltin_told_strayPets :
    let n := twelveCharacters.naming.start
    let r := (runBuiltin (Run.start strayPets twelveCharacters)).1
    let cut : Editing := ⟨n.after (strayPets.calls.take 5), "petName", Role.pathValue.tag⟩
    let escaped : Editing := ⟨cut.next, "id", Role.pathValue.tag⟩
    (runBuiltin (Run.start strayPets twelveCharacters)).2 = none ∧
    (∀ x ∈ [cut, escaped], x ∈ n.editings strayPets.calls) ∧
    cut.outcome = ⟨"iv_p_pet_000", true, false⟩ ∧ escaped.outcome = ⟨"_iv_p_id", false, true⟩ ∧
    cut.Told r.diagnostics ∧ ¬ escaped.Told r.diagnostics := by
  intro n r cut escaped
  have hdone : (runBuiltin (Run.start strayPets twelveCharacters)).2 = none := by decide +kernel
  have hstart : n = Naming.start { maxLength := 12, trimLength := 9 }
      (Reserved.addWords ⟨abapKeywords, []⟩ ["iv_p_id"]) :=
    congrArg Run.naming
      (Run.start_of_words strayPets { maxLength := 12, trimLength := 9 } ["iv_p_id"])
  have hmem : ∀ x ∈ [cut, escaped], x ∈ n.editings strayPets.calls := by
    simp only [cut, escaped, hstart]
    decide +kernel
  have hcut : cut.outcome = ⟨"iv_p_pet_000", true, false⟩ := by
    simp only [cut, hstart]
    decide +kernel
  have hescaped : escaped.outcome = ⟨"_iv_p_id", false, true⟩ := by
    simp only [escaped, cut, hstart]
    decide +kernel
  obtain ⟨hexplained, -, hown⟩ := runBuiltin_told_iff (Step.eq_of_done hdone)
    (hmem cut List.mem_cons_self) (.inl (by rw [hcut]))
  obtain ⟨-, hiff, -⟩ := runBuiltin_told_iff (Step.eq_of_done hdone)
    (hmem escaped (List.mem_cons_of_mem _ List.mem_cons_self)) (.inr (by rw [hescaped]))
  refine ⟨hdone, hmem, hcut, hescaped, hexplained (hown (by decide +kernel)), fun htold => ?_⟩
  obtain ⟨s, hs, hname, -⟩ := (hiff rfl).mp htold
  have hnames : ∀ s ∈ strayPets.sites, s.name ≠ "id" := by decide +kernel
  exact hnames s hs hname

def undeclaredPart : Descriptor where
  apis := [{
    classname := "PartApi"
    operations := [{
      operationId := "getPart"
      path := "/parts/\x7baVeryLongPathParameterIdentifierName\x7d" }] }]

/-- The identifier in the path is cut, and all that the run tells is its summary. -/
theorem runBuiltin_undeclaredPart :
    let n := ({} : NamingSettings).start
    let r := (runBuiltin (Run.start undeclaredPart {})).1
    let x : Editing := ⟨n.after (undeclaredPart.calls.take 3),
      "aVeryLongPathParameterIdentifierName", Role.pathValue.tag⟩
    (runBuiltin (Run.start undeclaredPart {})).2 = none ∧
    r.descriptor.apis.map (fun a => a.operations.map (·.path)) =
      [["/parts/\x7b iv_p_a_very_long_path_param000 \x7d"]] ∧
    x ∈ n.editings undeclaredPart.calls ∧
    x.outcome = ⟨"iv_p_a_very_long_path_param000", true, false⟩ ∧
    r.infos = [⟨.info, supportingPhase, r.summary, none⟩] ∧ ¬ x.Told r.diagnostics := by
  intro n r x
  have hinfos : r.infos = [⟨.info, supportingPhase, r.summary, none⟩] := by
    simp only [r, Run.start_of_words]
    decide +kernel
  have huntold : ¬ x.Told r.diagnostics := by
    rintro ⟨note, hnote, htells⟩
    have hinfo : note ∈ r.infos :=
      List.mem_filter.mpr ⟨hnote, by simp [Diagnostic.isInfo, htells.1]⟩
    rw [hinfos, List.mem_singleton] at hinfo
    subst hinfo
    exact r.not_tells_summary _ _ htells
  have hstart : n = Naming.start {} ⟨abapKeywords, []⟩ := NamingSettings.start_default
  refine ⟨by decide +kernel, ?_, ?_, ?_, hinfos, huntold⟩
  · simp only [r, Run.start_of_words]
    decide +kernel
  · simp only [x, hstart]
    decide +kernel
  · simp only [x, hstart]
    decide +kernel

end AbapNaming
