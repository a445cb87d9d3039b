import AbapNaming.Proofs.Naming.Roles
import AbapNaming.Proofs.PathTemplate.Reading
import AbapNaming.Proofs.Pipeline.Identifiers

/-! # Placeholders and their parameters

A placeholder always carries the identifier of a path value, whatever its parameter is. So it lines
up with a parameter that holds one value, cut and escaped or not, and never with one that holds
many. That the identifier arrives in its slot at all takes a path whose tokens stay apart.
-/

namespace AbapNaming

open PathTemplate

/-- Every placeholder carries, between its two spaces, the name of a path parameter. -/
def Operation.LinesUp (o : Operation) : Prop :=
  ∃ found, placeholders o.path = .ok found ∧
    ∀ q ∈ found, ∃ name ∈ o.pathParameters, q.text = spaced name

/-- No token of the path occurs in the identifier of an earlier one, other than to put itself
back. -/
def Naming.TokensApart (n : Naming) (path : String) : Prop :=
  (pathTokens path).Pairwise fun p q =>
    q.toList <:+: (n.identifier .pathValue p).toList → n.identifier .pathValue q = q

theorem PathTemplate.pathTokens_template (t : Template) : pathTokens t.path = t.tokens := by
  rw [pathTokens, t.placeholders_path]
  exact t.tokens_found

theorem Operation.accepts_of_pathFindings {o : Operation} (h : o.pathFindings = []) :
    Accepts o.path := by
  rw [pathFindings] at h
  cases hfound : placeholders o.path with
  | error e => simp [hfound] at h
  | ok found => exact ⟨found, hfound⟩

section

variable {n : Naming} {o o' : Operation}

theorem Naming.rendered_eq_fill (hplain : n.reserved.replacements = []) {t : Template}
    (hstray : ∀ q ∈ t.tokens, ¬ t.Strays q.toList) (hapart : n.TokensApart t.path) :
    n.rendered t.path = String.ofList (t.fill (n.identifier .pathValue)).renderSpaced := by
  have hun : Unaltered (n.identifier .pathValue) t.tokens := by
    rw [t.unaltered_iff, ← pathTokens_template]
    exact hapart
  have hidentifiers : ∀ q ∈ t.tokens, IsPlain (n.identifier .pathValue q).toList := fun q hq =>
    isPlain_identified hplain (isPlain_pathCandidate (t.token_plain hq))
  rw [rendered, pathTokens_template, Template.path, String.toList_ofList,
    t.replaceEach_eq_fill hstray hun, (t.fill_padded_iff _).mpr hidentifiers]

theorem Operation.pathParameters_eq (o : Operation) : o.pathParameters =
    (o.names.params.filter fun p => decide (p.placement = .path)).map (·.baseName) := by
  rw [pathParameters, names, List.filter_map, List.map_map]
  rfl

theorem Operation.mem_pathParameters_iff (h : o'.names = o.namesBy n) (name : String) :
    name ∈ o'.pathParameters ↔ ∃ p ∈ o.params, p.placement = .path ∧
      n.identifier (if p.isArray then .pathTable else .pathValue) p.baseName = name := by
  have hrole (p : Parameter) (hpath : p.placement = .path) : (p.namesBy n).baseName =
      n.identifier (if p.isArray then .pathTable else .pathValue) p.baseName := by
    rw [Parameter.namesBy, hpath]
    cases p.isArray <;> rfl
  have hnames : o'.names.params = o.params.map (Parameter.namesBy n) := by
    rw [h]
    rfl
  rw [pathParameters_eq, hnames]
  simp only [List.mem_map, List.mem_filter, decide_eq_true_eq]
  constructor
  · rintro ⟨_, ⟨⟨p, hp, rfl⟩, hpath⟩, rfl⟩
    exact ⟨p, hp, hpath, (hrole p hpath).symm⟩
  · rintro ⟨p, hp, hpath, rfl⟩
    exact ⟨_, ⟨⟨p, hp, rfl⟩, hpath⟩, hrole p hpath⟩

/-- What a placeholder carries is the name of a parameter with one value, if of any. -/
theorem Operation.pathValue_mem_pathParameters_iff (h : o'.names = o.namesBy n)
    (hkeyed : n.buckets.Keyed) (hplain : n.reserved.replacements = [])
    (hholds : ∀ p ∈ o.params, ∀ role, Role.ofParameter? p.placement p.isArray = some role →
      n.Holds (Naming.candidate p.baseName role.tag)) (token : String) :
    n.identifier .pathValue token ∈ o'.pathParameters ↔ ∃ p ∈ o.params, p.placement = .path ∧
      p.isArray = false ∧ n.identifier .pathValue p.baseName = n.identifier .pathValue token := by
  rw [mem_pathParameters_iff h]
  refine exists_congr fun p => and_congr_right fun hp => and_congr_right fun hpath => ?_
  cases harray : p.isArray with
  | false => simp
  | true =>
    -- A table's name was edited, so it has its place and meets no value's.
    have hrole : Role.ofParameter? p.placement p.isArray = some .pathTable := by
      rw [hpath, harray]
      rfl
    have htable : n.identifier .pathTable p.baseName ≠ n.identifier .pathValue token := fun hsame =>
      absurd (Naming.role_eq_of_identifier_eq (Role.mem_request hrole) (by decide) hkeyed hplain
        (hholds p hp _ hrole) hsame) (by decide)
    simpa using htable

/-- A filled path lines up exactly if each token's identifier is the name of a path parameter. -/
theorem Operation.linesUp_iff_of_fill {t : Template} {f : String → String}
    (hplain : ∀ q ∈ t.tokens, IsPlain (f q).toList)
    (hpath : o.path = String.ofList (t.fill f).renderSpaced) :
    o.LinesUp ↔ ∀ token ∈ t.tokens, f token ∈ o.pathParameters := by
  obtain ⟨found, hfound, htexts⟩ := t.placeholders_filled hplain
  rw [← hpath] at hfound
  have hcarried (token : String) (htoken : token ∈ t.tokens) :
      ∃ q ∈ found, q.text = spaced (f token) := by
    obtain ⟨s, hs, rfl⟩ := t.exists_slot htoken
    rw [← List.mem_map, htexts]
    exact List.mem_map_of_mem (List.mem_map_of_mem hs)
  have hcarries (q : Placeholder) (hq : q ∈ found) :
      ∃ token ∈ t.tokens, spaced (f token) = q.text := by
    have htext := List.mem_map_of_mem (f := Placeholder.text) hq
    rw [htexts] at htext
    obtain ⟨token, htoken, hspelt⟩ := List.mem_map.mp htext
    exact ⟨token, List.mem_eraseDups.mpr htoken, hspelt⟩
  constructor
  · rintro ⟨found', hfound', hnamed⟩ token htoken
    obtain rfl : found = found' := Except.ok.inj (hfound.symm.trans hfound')
    obtain ⟨q, hq, htext⟩ := hcarried token htoken
    obtain ⟨name, hname, hspelt⟩ := hnamed q hq
    rwa [spaced_inj.mp (htext.symm.trans hspelt)]
  · intro hnamed
    refine ⟨found, hfound, fun q hq => ?_⟩
    obtain ⟨token, htoken, hspelt⟩ := hcarries q hq
    exact ⟨_, hnamed token htoken, hspelt.symm⟩

theorem Operation.tokensApart_of_unfitted (hclean : o.pathFindings = [])
    (hunfitted : ∀ token ∈ pathTokens o.path, n.isLong (pathCandidate token) = false ∧
      n.escapes (pathCandidate token) = false) : n.TokensApart o.path := by
  obtain ⟨t, hpath⟩ := (accepts_iff_template _).mp (accepts_of_pathFindings hclean)
  obtain ⟨-, hcandidates⟩ := (pathFindings_eq_nil_iff hpath).mp hclean
  rw [Naming.TokensApart]
  rw [hpath, pathTokens_template] at hunfitted ⊢
  refine hcandidates.imp_of_mem fun {p q} hp _ hno hoccurs => ?_
  obtain ⟨hlong, hescapes⟩ := hunfitted p hp
  have hidentifier : n.identifier .pathValue p = pathCandidate p :=
    (Naming.identified_of_plain hescapes).trans (Naming.fitted_of_short hlong)
  rw [hidentifier] at hoccurs
  exact absurd hoccurs hno

end

theorem Operation.ofName_role_mem_calls {o : Operation} {p : Parameter} {role : Role}
    (hp : p ∈ o.params) (hrole : Role.ofParameter? p.placement p.isArray = some role) :
    .ofName role p.baseName ∈ o.calls := by
  have hcall : .ofName role p.baseName ∈ p.calls := by simp [Parameter.calls, hrole]
  have hparams : .ofName role p.baseName ∈ o.params.flatMap Parameter.calls :=
    List.mem_flatMap_of_mem hp hcall
  simp [calls, fieldCalls, hparams]

/-- In a run without chosen spellings a path that has no findings, and whose tokens stay apart,
lines up exactly if each placeholder has the name of a parameter with one value. The tokens do
stay apart where none of their identifiers is cut or escaped. -/
theorem runBuiltin_linesUp_iff {d : Descriptor} {c : Config} {r : Run}
    (hplain : c.naming.replacements = []) (h : runBuiltin (Run.start d c) = (r, none)) {i j : Nat}
    {a : ApiGroup} {o : Operation} (ha : d.apis[i]? = some a) (ho : a.operations[j]? = some o)
    (hclean : o.pathFindings = []) :
    ∃ a' o', r.descriptor.apis[i]? = some a' ∧ a'.operations[j]? = some o' ∧
      (r.naming.TokensApart o.path →
        (o'.LinesUp ↔ ∀ token ∈ pathTokens o.path, ∃ p ∈ o.params, p.placement = .path ∧
          p.isArray = false ∧
          r.naming.identifier .pathValue p.baseName = r.naming.identifier .pathValue token)) ∧
      ((∀ token ∈ pathTokens o.path, r.naming.isLong (pathCandidate token) = false ∧
        r.naming.escapes (pathCandidate token) = false) → r.naming.TokensApart o.path) := by
  obtain ⟨a', ha', hgroup⟩ := exists_getElem?_of_map_eq (runBuiltin_names h).2.2 ha
  obtain ⟨o', ho', hnames⟩ :=
    exists_getElem?_of_map_eq (congrArg GroupNames.operations hgroup) ho
  refine ⟨a', o', ha', ho', fun hapart => ?_, Operation.tokensApart_of_unfitted hclean⟩
  have hkeyed := runBuiltin_keyed h
  have hreserved := runBuiltin_replacements h hplain
  have hholds : ∀ p ∈ o.params, ∀ role, Role.ofParameter? p.placement p.isArray = some role →
      r.naming.Holds (Naming.candidate p.baseName role.tag) := fun p hp role hrole =>
    runBuiltin_holds h (Operation.mem_calls_of_mem (List.mem_of_getElem? ha)
      (List.mem_of_getElem? ho) (Operation.ofName_role_mem_calls hp hrole))
  -- The path is a template, and each of its tokens arrives in its slots.
  obtain ⟨t, hpath⟩ := (accepts_iff_template _).mp (Operation.accepts_of_pathFindings hclean)
  obtain ⟨hstray, -⟩ := (Operation.pathFindings_eq_nil_iff hpath).mp hclean
  rw [hpath] at hapart
  have hfilled : o'.path =
      String.ofList (t.fill (r.naming.identifier .pathValue)).renderSpaced := by
    rw [← Naming.rendered_eq_fill hreserved (fun q hq => (hstray q hq).1) hapart, ← hpath]
    exact congrArg OperationNames.path hnames
  have hidentifiers : ∀ q ∈ t.tokens, IsPlain (r.naming.identifier .pathValue q).toList :=
    fun q hq => Naming.isPlain_identified hreserved (isPlain_pathCandidate (t.token_plain hq))
  rw [Operation.linesUp_iff_of_fill hidentifiers hfilled, hpath, pathTokens_template]
  refine forall₂_congr fun token _ => ?_
  exact Operation.pathValue_mem_pathParameters_iff hnames hkeyed hreserved hholds token

def ownedPets : Descriptor where
  apis := [{
    classname := "Pets"
    operations := [{
      operationId := "find"
      path := "/pets/\x7bpetName\x7d/\x7bid\x7d"
      params := [{ baseName := "petName", isPath := true }, { baseName := "id", isPath := true }] }] }]

def twelveCharacters : Config where
  naming := { limits := { maxLength := 12, trimLength := 9 }, reservedWords := ["iv_p_id"] }

/-- Both placeholders line up, cut to length and escaped as they are. -/
theorem runBuiltin_ownedPets :
    (ownedPets.apis.map fun a => a.operations.map Operation.pathFindings) = [[[]]] ∧
    (runBuiltin (Run.start ownedPets twelveCharacters)).2 = none ∧
    (runBuiltin (Run.start ownedPets twelveCharacters)).1.descriptor.apis.map
      (fun a => a.operations.map (·.path)) = [["/pets/\x7b iv_p_pet_000 \x7d/\x7b _iv_p_id \x7d"]] ∧
    ∃ a' o', (runBuiltin (Run.start ownedPets twelveCharacters)).1.descriptor.apis[0]? = some a' ∧
      a'.operations[0]? = some o' ∧ o'.LinesUp := by
  have hclean : (ownedPets.apis.map fun a => a.operations.map Operation.pathFindings) = [[[]]] := by
    decide +kernel
  have hdone : (runBuiltin (Run.start ownedPets twelveCharacters)).2 = none := by decide +kernel
  have hpaths : (runBuiltin (Run.start ownedPets twelveCharacters)).1.descriptor.apis.map
      (fun a => a.operations.map (·.path)) = [["/pets/\x7b iv_p_pet_000 \x7d/\x7b _iv_p_id \x7d"]] := by
    rw [twelveCharacters, Run.start_of_words]
    decide +kernel
  have hcut : (runBuiltin (Run.start ownedPets twelveCharacters)).1.naming.identifier .pathValue
      "petName" = "iv_p_pet_000" := by
    rw [twelveCharacters, Run.start_of_words]
    decide +kernel
  have htokens : pathTokens "/pets/\x7bpetName\x7d/\x7bid\x7d" = ["petName", "id"] := by decide +kernel
  obtain ⟨a', o', ha', ho', hlines, -⟩ := runBuiltin_linesUp_iff rfl (Step.eq_of_done hdone)
    (i := 0) (j := 0) rfl rfl (by decide +kernel)
  refine ⟨hclean, hdone, hpaths, a', o', ha', ho', (hlines ?_).mpr ?_⟩
  · have hapart : ¬ "id".toList <:+: "iv_p_pet_000".toList := by decide +kernel
    rw [Naming.TokensApart, htokens, List.pairwise_pair, hcut]
    exact fun hoccurs => absurd hoccurs hapart
  · rw [htokens]
    simp [Parameter.placement]

/-- A parameter with many values has another name than its placeholder. -/
def listedPets : Descriptor where
  apis := [{
    classname := "Pets"
    operations := [{
      operationId := "list"
      path := "/pets/\x7bids\x7d"
      params := [{ baseName := "ids", isPath := true, isArray := true }] }] }]

/-- Nothing is found on the path, and its placeholder has the name of no parameter. -/
theorem runBuiltin_listedPets :
    (listedPets.apis.map fun a => a.operations.map Operation.pathFindings) = [[[]]] ∧
    (runBuiltin (Run.start listedPets {})).2 = none ∧
    (runBuiltin (Run.start listedPets {})).1.descriptor.apis.map (fun a =>
      a.operations.map fun o => (placeholders o.path, o.pathParameters)) =
        [[(.ok [⟨" iv_p_ids ", 6⟩], ["it_p_ids"])]] := by
  rw [Run.start_of_words]
  refine ⟨?_, ?_, ?_⟩ <;> decide +kernel

end AbapNaming
