import AbapNaming.Proofs.Pipeline.Identifiers

/-! # What a run tells of its names

A name that is edited at a place of its own in the descriptor leaves a note there if it was cut or
escaped. The notes of a run come in the order of these places, between the findings of the lints
and the summary, and the last state can tell them all.
-/

namespace AbapNaming

/-- A name with the place at which it is edited. -/
structure NameSite where
  phase : String
  location : String
  name : String
  role : Role
deriving DecidableEq, Repr

def NameSite.notes (n : Naming) (s : NameSite) : List Diagnostic :=
  editNotes s.phase s.location s.name (n.edit s.name s.role.tag).1

theorem NameSite.severity_of_mem_notes {n : Naming} {s : NameSite} {x : Diagnostic}
    (hx : x ∈ s.notes n) : x.severity = .info := by
  simp only [notes, editNotes, List.mem_append, List.mem_ite_nil_right, List.mem_singleton] at hx
  rcases hx with ⟨-, rfl⟩ | ⟨-, rfl⟩ <;> rfl

/-- The editor has told of the names at these sites what every later state would tell of them. -/
def Editor.Noted (old : List Diagnostic) (sites : List NameSite) (e : Editor) : Prop :=
  ∀ n, e.naming.Extends n → e.diagnostics = old ++ sites.flatMap (NameSite.notes n)

namespace Editor.Noted

variable {old : List Diagnostic} {sites : List NameSite} {e : Editor}

theorem edit (h : e.Noted old sites) (s : NameSite) :
    (e.edit s.phase s.location s.name s.role.tag).2.Noted old (sites ++ [s]) := by
  intro n hn
  have hnext : (e.naming.edit s.name s.role.tag).2.Extends n := hn
  have hold := h n ((e.naming.extends_edit s.name s.role.tag).trans hnext)
  rw [List.flatMap_append, List.flatMap_singleton, NameSite.notes, hnext.edit_eq_of_edited,
    ← List.append_assoc, ← hold]
  rfl

theorem silent {naming : Naming} (h : e.Noted old sites) (hnext : e.naming.Extends naming) :
    ({ e with naming } : Editor).Noted old sites :=
  fun n hn => h n (hnext.trans hn)

theorem settle (h : e.Noted old sites) (u : TypeUse) : (u.settle e).2.Noted old sites := by
  cases u with
  | kept text => exact h
  | coded name => exact h.silent (e.naming.extends_intern name _)

theorem path {path text : String} {naming : Naming} (h : e.Noted old sites)
    (hrendered : e.naming.renderPath path = .ok (text, naming)) :
    ({ e with naming } : Editor).Noted old sites := by
  have hcall : e.naming.call (.path path) = naming := by rw [Naming.call, hrendered]
  exact h.silent (hcall ▸ Naming.extends_after e.naming [.path path])

end Editor.Noted

section

variable {α σ κ : Type} (Reached : List κ → σ → Prop) {requests : α → List κ} {before : List κ}
  {s : σ}

theorem mapThrough_reached {f : σ → α → α × σ}
    (hf : ∀ before s a, Reached before s → Reached (before ++ requests a) (f s a).2)
    (as : List α) (hs : Reached before s) :
    Reached (before ++ as.flatMap requests) (mapThrough f s as).2 := by
  induction as generalizing before s with
  | nil => rwa [List.flatMap_nil, List.append_nil]
  | cons a as ih =>
    rw [List.flatMap_cons, ← List.append_assoc]
    exact ih (hf before s a hs)

theorem mapUntil_reached {f : σ → α → α × σ × Option Failure}
    (hf : ∀ before s a, Reached before s → (f s a).2.2 = none →
      Reached (before ++ requests a) (f s a).2.1)
    (as : List α) (hs : Reached before s) (hdone : (mapUntil f s as).2.2 = none) :
    Reached (before ++ as.flatMap requests) (mapUntil f s as).2.1 := by
  induction as generalizing before s with
  | nil => rwa [List.flatMap_nil, List.append_nil]
  | cons a as ih =>
    have hhead := hf before s a hs
    rw [List.flatMap_cons, ← List.append_assoc]
    rw [mapUntil] at hdone ⊢
    rcases h : f s a with ⟨a', s', _ | failure⟩
    · simp only [h] at hdone hhead ⊢
      exact ih (hhead trivial) hdone
    · simp only [h] at hdone
      exact absurd hdone (by simp)

end

section

variable {old : List Diagnostic} {before : List NameSite} {e : Editor}

def Property.site (location : String) (p : Property) : NameSite :=
  ⟨modelsPhase, location ++ ".vars." ++ p.baseName, p.baseName, .plain⟩

theorem Property.rename_noted (location : String) (he : e.Noted old before) (p : Property) :
    (p.rename location e).2.Noted old (before ++ [p.site location]) := by
  have hdata : (e.internData p.dataType).2.Noted old before := by
    rw [Editor.internData_eq]
    exact he.settle _
  have hnamed := hdata.edit (p.site location)
  simp only [rename, Editor.internReference_eq]
  cases p.complexType with
  | none => exact hnamed
  | some type => exact hnamed.settle _

def Model.sites (m : Model) : List NameSite := m.vars.map (Property.site m.location)

theorem Model.rename_noted (he : e.Noted old before) (m : Model) :
    (m.rename e).2.Noted old (before ++ m.sites) := by
  simp only [rename, vars_withOwnNames, location_withOwnNames]
  rw [sites, List.map_eq_flatMap]
  exact (mapThrough_reached (Editor.Noted old) (fun _ _ p he => p.rename_noted m.location he) m.vars
    he).settle (.coded m.withOwnNames.typeName)

/-- The variable of a parameter, and its name in the request if it has one. -/
def Parameter.sites (operation : String) (p : Parameter) : List NameSite :=
  [⟨operationsPhase, p.locationIn operation, p.baseName, .plain⟩] ++
    (Role.ofParameter? p.placement p.isArray).toList.map
      fun role => ⟨operationsPhase, p.locationIn operation, p.baseName, role⟩

theorem Parameter.rename_noted (operation : String) (he : e.Noted old before) (p : Parameter) :
    (p.rename operation e).2.Noted old (before ++ p.sites operation) := by
  have hvariable := he.edit ⟨operationsPhase, p.locationIn operation, p.baseName, .plain⟩
  rw [sites, ← List.append_assoc, rename_eq]
  cases Role.ofParameter? p.placement p.isArray with
  | some role => exact hvariable.edit ⟨operationsPhase, p.locationIn operation, p.baseName, role⟩
  | none =>
    rw [Option.toList_none, List.map_nil, List.append_nil]
    exact hvariable.settle p.useAsIs

def Operation.sites (group : String) (o : Operation) : List NameSite :=
  [⟨operationsPhase, o.locationIn group, o.operationId, .plain⟩] ++
    ([⟨operationsPhase, o.locationIn group, o.baseName, .plain⟩] ++
      o.params.flatMap (Parameter.sites (o.locationIn group)))

theorem Operation.renameFields_noted (group : String) (he : e.Noted old before) (o : Operation) :
    (o.renameFields (o.locationIn group) e).2.Noted old (before ++ o.sites group) := by
  have hid := he.edit ⟨operationsPhase, o.locationIn group, o.operationId, .plain⟩
  have hstub := hid.edit ⟨operationsPhase, o.locationIn group, o.baseName, .plain⟩
  have hreturn := hstub.settle o.returnUse
  rw [← renameReturn_eq] at hreturn
  have hparams := mapThrough_reached (Editor.Noted old)
    (fun _ _ p he => p.rename_noted (o.locationIn group) he) o.params hreturn
  rwa [List.append_assoc, List.append_assoc] at hparams

theorem Operation.rename_noted (group : String) (he : e.Noted old before) (o : Operation)
    (hdone : (o.rename group e).2.2 = none) :
    (o.rename group e).2.1.Noted old (before ++ o.sites group) := by
  have hfields := Operation.renameFields_noted group he o
  simp only [rename] at hdone ⊢
  cases hrendered : (o.renameFields (o.locationIn group) e).2.naming.renderPath
      (o.renameFields (o.locationIn group) e).1.path with
  | error error =>
    rw [hrendered] at hdone
    cases hdone
  | ok rendered => exact hfields.path hrendered

def ApiGroup.sites (a : ApiGroup) : List NameSite :=
  [⟨operationsPhase, a.location, a.classname, .plain⟩] ++
    a.operations.flatMap (Operation.sites a.location)

theorem ApiGroup.rename_noted (he : e.Noted old before) (a : ApiGroup)
    (hdone : (a.rename e).2.2 = none) :
    (a.rename e).2.1.Noted old (before ++ a.sites) := by
  have hclass := he.edit ⟨operationsPhase, a.location, a.classname, .plain⟩
  have hoperations := mapUntil_reached (Editor.Noted old)
    (fun _ _ o he h => Operation.rename_noted a.location he o h) a.operations hclass hdone
  rwa [List.append_assoc] at hoperations

end

theorem Model.sites_mapTypes (m : Model) : m.mapTypes.sites = m.sites := List.map_map

theorem Operation.sites_mapTypes (group : String) (o : Operation) :
    o.mapTypes.sites group = o.sites group := by
  simp only [sites, mapTypes, List.flatMap_map]
  rfl

theorem ApiGroup.sites_mapTypes (a : ApiGroup) : a.mapTypes.sites = a.sites := by
  simp only [sites, mapTypes, List.flatMap_map, Operation.sites_mapTypes]
  rfl

/-- All names of a descriptor that are edited at a place of their own, in order. -/
def Descriptor.sites (d : Descriptor) : List NameSite :=
  d.models.flatMap Model.sites ++ d.apis.flatMap ApiGroup.sites

/-- A run that goes through tells the findings of the lints, then the notes on its names, and at
last its summary. -/
theorem runBuiltin_diagnostics {d : Descriptor} {c : Config} {r : Run}
    (h : runBuiltin (Run.start d c) = (r, none)) :
    r.diagnostics = lintAll defaultLints d ++ d.sites.flatMap (NameSite.notes r.naming) ++
      [⟨.info, supportingPhase, r.summary, none⟩] := by
  have hclean : (Run.start d c).hasErrors = false := rfl
  obtain ⟨hdefects, rfl⟩ := runBuiltin_of_done hclean h
  have hstart : ((Run.start d c).report (lintAll defaultLints d)).editor.Noted
      (lintAll defaultLints d) [] := fun n _ => (List.append_nil _).symm
  have hmodels := mapThrough_reached (Editor.Noted (lintAll defaultLints d))
    (fun _ _ m he => Model.rename_noted he m) d.mapTypes.models hstart
  have hdone : (Phase.operations.run (Run.start d c).prepared).2 = none :=
    (Run.start d c).operations_prepared hdefects
  have hoperations := mapUntil_reached (Editor.Noted (lintAll defaultLints d))
    (fun _ _ a he h => ApiGroup.rename_noted he a h) d.mapTypes.apis hmodels hdone
  rw [List.nil_append, Descriptor.mapTypes, List.flatMap_map, List.flatMap_map] at hoperations
  simp only [Model.sites_mapTypes, ApiGroup.sites_mapTypes] at hoperations
  have htold := hoperations _ (Naming.Extends.refl _)
  exact congrArg (· ++ [_]) htold

end AbapNaming
