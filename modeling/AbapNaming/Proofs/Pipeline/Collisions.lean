import AbapNaming.Proofs.Lint.Collisions
import AbapNaming.Proofs.Pipeline.Identifiers

/-! # Reported names and final names

Names of one form get one identifier, so a name that is reported always ends up as the one that it
meets does. Silence tells less: names of different forms still become one where one of them is cut
or escaped into the spelling of the other.
-/

namespace AbapNaming

/-- Each name that is reported ends up as the one that it meets does. -/
def ReportedAgree (names finals : List String) : Prop :=
  ∀ (i j : Nat) (name : String), names[i]? = some name →
    firstAlike? (names.take i) name = some j →
      ∃ final, finals[i]? = some final ∧ finals[j]? = some final

/-- The names end up apart exactly if no two of them merge, and so wherever all of them are kept
whole and not escaped. -/
structure Naming.Separates (n : Naming) (names finals : List String) : Prop where
  nodup_iff : finals.Nodup ↔
    names.Pairwise fun a b => ¬ n.Merges (candidate a Role.plain.tag) (candidate b Role.plain.tag)
  nodup_of_unfitted : (∀ name ∈ names, n.isLong (candidate name Role.plain.tag) = false ∧
    n.escapes (candidate name Role.plain.tag) = false) → finals.Nodup

theorem reportedAgree_map (n : Naming) (role : Role) (names : List String) :
    ReportedAgree names (names.map (n.identifier role)) := by
  intro i j name hname hfirst
  obtain ⟨hj, hform, -⟩ := List.findIdx?_eq_some_iff_getElem.mp hfirst
  have hother : names[j]? = some (names.take i)[j] := by
    rw [List.getElem_take]
    exact List.getElem?_eq_getElem _
  refine ⟨n.identifier role name, ?_, ?_⟩
  · rw [List.getElem?_map, hname, Option.map_some]
  · rw [List.getElem?_map, hother, Option.map_some,
      n.identifier_congr role (of_decide_eq_true hform)]

/-- Behind different forms identifiers coincide exactly where they merge. -/
theorem Naming.separates_map {n : Naming} (hkeyed : n.buckets.Keyed)
    (hplain : n.reserved.replacements = []) {names : List String}
    (hholds : ∀ name ∈ names, n.Holds (candidate name Role.plain.tag))
    (hforms : (names.map Snake.ofName).Nodup) :
    n.Separates names (names.map (n.identifier .plain)) := by
  rw [List.Nodup, List.pairwise_map] at hforms
  have hnodup : (names.map (n.identifier .plain)).Nodup ↔ names.Pairwise fun a b =>
      ¬ n.Merges (candidate a Role.plain.tag) (candidate b Role.plain.tag) := by
    rw [List.Nodup, List.pairwise_map]
    constructor
    · intro hdistinct
      refine hdistinct.imp_of_mem fun {a b} ha _ hne hmerges => hne ?_
      exact (identified_eq_iff hkeyed hplain (hholds a ha)).mpr (.inr hmerges)
    · intro hapart
      -- Candidates differ since the forms do, so only a merge could bring them together.
      refine (hforms.and hapart).imp_of_mem fun {a b} ha _ hab hsame => ?_
      rcases (identified_eq_iff hkeyed hplain (hholds a ha)).mp hsame with hcandidate | hmerges
      · exact hab.1 (candidate_inj.mp hcandidate)
      · exact hab.2 hmerges
  refine ⟨hnodup, fun hunfitted => hnodup.mpr ?_⟩
  refine List.pairwise_of_forall_mem_list fun a ha b hb => ?_
  obtain ⟨hlonga, hescapesa⟩ := hunfitted a ha
  obtain ⟨hlongb, hescapesb⟩ := hunfitted b hb
  exact not_merges_of_alike (hlonga.trans hlongb.symm) (hescapesa.trans hescapesb.symm)

section

variable {d : Descriptor} {c : Config} {r : Run}

theorem runBuiltin_classnames (h : runBuiltin (Run.start d c) = (r, none)) :
    r.descriptor.apis.map (·.classname) =
      (d.apis.map (·.classname)).map (r.naming.identifier .plain) := by
  have hnames := congrArg (List.map GroupNames.classname) (runBuiltin_names h).2.2
  simp only [List.map_map] at hnames ⊢
  exact hnames

theorem runBuiltin_operationIds (h : runBuiltin (Run.start d c) = (r, none)) {i : Nat} {a : ApiGroup}
    (ha : d.apis[i]? = some a) : ∃ a', r.descriptor.apis[i]? = some a' ∧
      a'.operations.map (·.operationId) =
        (a.operations.map (·.operationId)).map (r.naming.identifier .plain) := by
  obtain ⟨a', ha', hnames⟩ := exists_getElem?_of_map_eq (runBuiltin_names h).2.2 ha
  have hoperations := congrArg (fun g => g.operations.map OperationNames.operationId) hnames
  refine ⟨a', ha', ?_⟩
  simp only [ApiGroup.names, ApiGroup.namesBy, List.map_map] at hoperations ⊢
  exact hoperations

end

theorem ApiGroup.ofName_classname_mem_calls {d : Descriptor} {a : ApiGroup} (ha : a ∈ d.apis) :
    .ofName .plain a.classname ∈ d.calls := by
  have hcall : .ofName .plain a.classname ∈ a.calls := List.mem_append_left _ (by simp)
  exact List.mem_append_right _ (List.mem_flatMap_of_mem ha hcall)

theorem Operation.ofName_operationId_mem_calls (o : Operation) :
    .ofName .plain o.operationId ∈ o.calls := by
  simp [calls, fieldCalls]

/-- The whole report on names that meet, and what becomes of them. Each group is reported for the
first earlier group of its form, if there is one, and each operation for the first earlier one in
its group. Whatever was edited between, the two have one identifier in the end. -/
theorem Lint.collisions_reportedAgree (d : Descriptor) :
    Lint.collisions.check d = (d.apis.mapIdx fun i a =>
      collisionDiagnostics "api group" a.location
        (meeting? ((d.apis.take i).map (·.classname)) a.classname) ++
      (a.operations.mapIdx fun j o =>
        collisionDiagnostics "operation" (o.locationIn a.location)
          (meeting? ((a.operations.take j).map (·.operationId)) o.operationId)).flatten).flatten ∧
    ∀ (c : Config) (r : Run), runBuiltin (Run.start d c) = (r, none) →
      ReportedAgree (d.apis.map (·.classname)) (r.descriptor.apis.map (·.classname)) ∧
      ∀ (i : Nat) (a : ApiGroup), d.apis[i]? = some a → ∃ a', r.descriptor.apis[i]? = some a' ∧
        ReportedAgree (a.operations.map (·.operationId)) (a'.operations.map (·.operationId)) := by
  constructor
  · simp only [Lint.collisions_check, operationCollisions_eq]
  · intro c r h
    refine ⟨?_, fun i a ha => ?_⟩
    · rw [runBuiltin_classnames h]
      exact reportedAgree_map _ _ _
    · obtain ⟨a', ha', hids⟩ := runBuiltin_operationIds h ha
      refine ⟨a', ha', ?_⟩
      rw [hids]
      exact reportedAgree_map _ _ _

def sixCharacters : Config where
  naming := { limits := { maxLength := 6, trimLength := 3 } }

/-- The third operation has the name of the first one in another spelling. -/
def respeltPets : Descriptor where
  apis := [{
    classname := "Pets"
    operations := [{ operationId := "getPet", path := "/pet" },
      { operationId := "getPets", path := "/pets" }, { operationId := "get_pet", path := "/p" }] }]

/-- It is reported for the first one and gets its number, although another name of the bucket comes
between. -/
theorem runBuiltin_respeltPets :
    Lint.collisions.check respeltPets = [⟨.warning, lintPhase,
      "operation 'get_pet' collides with 'getPet' as 'get_pet'",
      some "apis.Pets.operations.get_pet"⟩] ∧
    (runBuiltin (Run.start respeltPets sixCharacters)).2 = none ∧
    ∃ a' final, (runBuiltin (Run.start respeltPets sixCharacters)).1.descriptor.apis[0]? = some a' ∧
      (a'.operations.map (·.operationId))[2]? = some final ∧
      (a'.operations.map (·.operationId))[0]? = some final := by
  obtain ⟨hreport, hagree⟩ := Lint.collisions_reportedAgree respeltPets
  have hdone : (runBuiltin (Run.start respeltPets sixCharacters)).2 = none := by decide +kernel
  obtain ⟨-, hoperations⟩ := hagree _ _ (Step.eq_of_done hdone)
  obtain ⟨a', ha', hids⟩ := hoperations 0 _ rfl
  have hfirst : firstAlike? ["getPet", "getPets"] "get_pet" = some 0 := by decide +kernel
  obtain ⟨final, hthird, hsame⟩ := hids 2 0 "get_pet" rfl hfirst
  exact ⟨hreport.trans (by decide +kernel), hdone, a', final, ha', hthird, hsame⟩

/-- Where nothing is reported, and no spelling is chosen, groups end up apart exactly if no two of
their names merge, and so do the operations of each group. -/
theorem runBuiltin_separates_of_silent {d : Descriptor} {c : Config} {r : Run}
    (hplain : c.naming.replacements = []) (h : runBuiltin (Run.start d c) = (r, none))
    (hsilent : Lint.collisions.check d = []) :
    r.naming.Separates (d.apis.map (·.classname)) (r.descriptor.apis.map (·.classname)) ∧
    ∀ (i : Nat) (a : ApiGroup), d.apis[i]? = some a → ∃ a', r.descriptor.apis[i]? = some a' ∧
      r.naming.Separates (a.operations.map (·.operationId))
        (a'.operations.map (·.operationId)) := by
  obtain ⟨hgroups, hoperations⟩ := (Lint.collisions_check_eq_nil_iff d).mp hsilent
  have hkeyed := runBuiltin_keyed h
  have hreserved := runBuiltin_replacements h hplain
  constructor
  · rw [runBuiltin_classnames h]
    refine Naming.separates_map hkeyed hreserved (fun name hname => ?_) hgroups
    obtain ⟨a, ha, rfl⟩ := List.mem_map.mp hname
    exact runBuiltin_holds h (ApiGroup.ofName_classname_mem_calls ha)
  · intro i a hi
    have ha := List.mem_of_getElem? hi
    obtain ⟨a', ha', hids⟩ := runBuiltin_operationIds h hi
    refine ⟨a', ha', ?_⟩
    rw [hids]
    refine Naming.separates_map hkeyed hreserved (fun name hname => ?_) (hoperations a ha)
    obtain ⟨o, ho, rfl⟩ := List.mem_map.mp hname
    exact runBuiltin_holds h (Operation.mem_calls_of_mem ha ho o.ofName_operationId_mem_calls)

def longPets : Descriptor where
  apis := [{
    classname := "Pets"
    operations := [{ operationId := "getPet", path := "/pet" },
      { operationId := "getPets", path := "/pets" }] }]

/-- Names that are cut are told apart by their numbers, and so never merge. -/
theorem runBuiltin_longPets :
    Lint.collisions.check longPets = [] ∧
    (runBuiltin (Run.start longPets sixCharacters)).2 = none ∧
    (runBuiltin (Run.start longPets sixCharacters)).1.descriptor.apis.map
      (fun a => a.operations.map (·.operationId)) = [["get000", "get001"]] ∧
    ¬ (runBuiltin (Run.start longPets sixCharacters)).1.naming.Merges
      (Naming.candidate "getPet" Role.plain.tag) (Naming.candidate "getPets" Role.plain.tag) := by
  have hsilent : Lint.collisions.check longPets = [] := by decide +kernel
  have hdone : (runBuiltin (Run.start longPets sixCharacters)).2 = none := by decide +kernel
  have hids : (runBuiltin (Run.start longPets sixCharacters)).1.descriptor.apis.map
      (fun a => a.operations.map (·.operationId)) = [["get000", "get001"]] := by
    rw [sixCharacters, Run.start_of_words]
    decide +kernel
  refine ⟨hsilent, hdone, hids, ?_⟩
  obtain ⟨-, hoperations⟩ := runBuiltin_separates_of_silent rfl (Step.eq_of_done hdone) hsilent
  obtain ⟨a', ha', hseparates⟩ := hoperations 0 _ rfl
  have hfirst := congrArg (·[0]?) hids
  rw [List.getElem?_map, ha'] at hfirst
  have hids' : a'.operations.map (·.operationId) = ["get000", "get001"] := Option.some.inj hfirst
  rw [hids'] at hseparates
  have hapart := hseparates.nodup_iff.mp (by decide)
  exact List.rel_of_pairwise_cons hapart List.mem_cons_self

def underscoredPets : Descriptor where
  apis := [{
    classname := "PetApi"
    operations := [{ operationId := "data", path := "/data" },
      { operationId := "_data", path := "/raw" }] }]

/-- Nothing is reported of them, and both get the same name. -/
theorem runBuiltin_underscoredPets :
    Lint.collisions.check underscoredPets = [] ∧
    (runBuiltin (Run.start underscoredPets {})).2 = none ∧
    (runBuiltin (Run.start underscoredPets {})).1.descriptor.apis.map
      (fun a => a.operations.map (·.operationId)) = [["_data", "_data"]] := by
  rw [Run.start_of_words]
  refine ⟨?_, ?_, ?_⟩ <;> decide +kernel

end AbapNaming
