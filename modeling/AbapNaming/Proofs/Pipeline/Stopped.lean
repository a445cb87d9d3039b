import AbapNaming.Proofs.Pipeline.Frame
import AbapNaming.Proofs.Pipeline.Notes

/-! # Where the operations stop

At the first malformed path the operations stop in the middle of a group. The part before that
operation is what the phase makes of it alone, names and type codes included. The operation itself
has everything but its path, and what stands behind it is as it was read.
-/

namespace AbapNaming

open PathTemplate

section

variable {α σ β : Type}

/-- A list that goes through is followed by the rest of a longer one, from the state it leaves. -/
theorem mapUntil_append {f : σ → α → α × σ × Option Failure} {s s' : σ} {as as' : List α}
    (h : mapUntil f s as = (as', s', none)) (bs : List α) :
    mapUntil f s (as ++ bs) = (as' ++ (mapUntil f s' bs).1, (mapUntil f s' bs).2) := by
  induction as generalizing s as' with
  | nil =>
    cases h
    rfl
  | cons a as ih =>
    rw [List.cons_append, mapUntil]
    rw [mapUntil] at h
    rcases ha : f s a with ⟨a', t, _ | e⟩
    · rcases hrest : mapUntil f t as with ⟨rest, u⟩
      simp only [ha, hrest] at h
      cases h
      simp only [ih hrest, List.cons_append]
    · simp only [ha] at h
      cases h

theorem mapUntil_of_done {f : σ → α → α × σ × Option Failure} {s s' : σ} {a a' : α}
    (h : f s a = (a', s', none)) (as : List α) :
    mapUntil f s (a :: as) = (a' :: (mapUntil f s' as).1, (mapUntil f s' as).2) := by
  rw [mapUntil, h]

theorem mapUntil_of_failure {f : σ → α → α × σ × Option Failure} {s s' : σ} {a a' : α} {e : Failure}
    (h : f s a = (a', s', some e)) (as : List α) :
    mapUntil f s (a :: as) = (a' :: as, s', some e) := by
  rw [mapUntil, h]

/-- A view of the items that no change of them touches is the same of the changed list. -/
theorem map_mapThrough {f : σ → α → α × σ} {view : α → β} (hf : ∀ s a, view (f s a).1 = view a)
    (s : σ) (as : List α) : (mapThrough f s as).1.map view = as.map view := by
  induction as generalizing s with
  | nil => rfl
  | cons a as ih =>
    change view (f s a).1 :: (mapThrough f (f s a).2 as).1.map view = _
    rw [hf, ih, List.map_cons]

theorem map_mapUntil {f : σ → α → α × σ × Option Failure} {view : α → β}
    (hf : ∀ s a, view (f s a).1 = view a) (s : σ) (as : List α) :
    (mapUntil f s as).1.map view = as.map view := by
  induction as generalizing s with
  | nil => rfl
  | cons a as ih =>
    have ha := hf s a
    rw [mapUntil, List.map_cons, ← ha]
    rcases f s a with ⟨a', s', _ | e⟩
    · exact congrArg (view a' :: ·) (ih s')
    · rfl

theorem length_mapUntil (f : σ → α → α × σ × Option Failure) (s : σ) (as : List α) :
    (mapUntil f s as).1.length = as.length := by
  have hview : (mapUntil f s as).1.map (fun _ => ()) = as.map fun _ => () :=
    map_mapUntil (fun _ _ => rfl) s as
  simpa only [List.length_map] using congrArg List.length hview

end

/-! The frames of the records stay in every run of the phase, wherever it stops. -/

theorem Role.placement_of_ofParameter? {placement : Placement} {isArray : Bool} {role : Role}
    (h : ofParameter? placement isArray = some role) : placement = .query ∨ placement = .path := by
  cases placement with
  | query => exact .inl rfl
  | path => exact .inr rfl
  | body => cases h
  | other => cases h

theorem Parameter.frame_rename (operation : String) (e : Editor) (p : Parameter) :
    (p.rename operation e).1.frame = p.frame := by
  rw [rename_eq]
  cases hrole : Role.ofParameter? p.placement p.isArray with
  | none => rfl
  | some role =>
    have hnamed := Role.placement_of_ofParameter? hrole
    have hplacement (baseName paramName dataType : String) :
        ({ p with baseName, paramName, dataType } : Parameter).placement = p.placement := rfl
    simp only [frame, hplacement, if_pos hnamed]

theorem Operation.frame_renameFields (location : String) (e : Editor) (o : Operation) :
    (o.renameFields location e).1.frame = o.frame := by
  simp only [renameFields, frame, map_mapThrough (Parameter.frame_rename location)]

theorem Operation.frame_rename (group : String) (e : Editor) (o : Operation) :
    (o.rename group e).1.frame = o.frame := by
  have hfields := o.frame_renameFields (o.locationIn group) e
  simp only [rename]
  split <;> exact hfields

theorem ApiGroup.frame_rename (e : Editor) (a : ApiGroup) : (a.rename e).1.frame = a.frame := by
  simp only [rename, frame, map_mapUntil (Operation.frame_rename a.location)]

/-- No group, operation or parameter gets lost, whether the phase goes through or not. -/
theorem Phase.operations_frame (r : Run) :
    (Phase.operations.run r).1.descriptor.apis.map ApiGroup.frame =
      r.descriptor.apis.map ApiGroup.frame :=
  map_mapUntil ApiGroup.frame_rename r.editor r.descriptor.apis

/-! Whether an item goes through is decided by its paths. -/

theorem Operation.rename_of_malformed {o : Operation} {error : PathError}
    (h : placeholders o.path = .error error) (group : String) (e : Editor) :
    o.rename group e = ((o.renameFields (o.locationIn group) e).1,
      (o.renameFields (o.locationIn group) e).2,
      some (.operation (o.locationIn group) (.path error))) := by
  have hpath : (o.renameFields (o.locationIn group) e).1.path = o.path := rfl
  simp only [rename, hpath, Naming.renderPath, h]

theorem mapUntil_operations_done {operations : List Operation}
    (h : ∀ o ∈ operations, Accepts o.path) (group : String) (e : Editor) :
    (mapUntil (Operation.rename group) e operations).2.2 = none := by
  rw [mapUntil_failure (Operation.rename_failure group), List.findSome?_eq_none_iff]
  intro o ho
  rw [o.pathError?_eq_none_iff.mpr (h o ho), Option.map_none]

theorem mapUntil_groups_done {groups : List ApiGroup}
    (h : ∀ a ∈ groups, ∀ o ∈ a.operations, Accepts o.path) (e : Editor) :
    (mapUntil ApiGroup.rename e groups).2.2 = none := by
  rw [mapUntil_failure ApiGroup.rename_failure, List.findSome?_eq_none_iff]
  intro a ha
  have hdefects : a.pathDefects = [] := by
    simp only [ApiGroup.pathDefects, List.filterMap_eq_nil_iff, Option.map_eq_none_iff,
      Operation.pathError?_eq_none_iff]
    exact h a ha
  rw [hdefects]
  rfl

theorem ApiGroup.rename_of_operations {e e' : Editor} {classname : String}
    {operations operations' : List Operation} {failure : Option Failure}
    (h : mapUntil (Operation.rename ("apis." ++ classname))
      (e.edit operationsPhase ("apis." ++ classname) classname Role.plain.tag).2 operations =
        (operations', e', failure)) :
    rename e ⟨classname, operations⟩ =
      (⟨(e.edit operationsPhase ("apis." ++ classname) classname Role.plain.tag).1, operations'⟩,
        e', failure) := by
  simp only [rename, location, h]

def Run.withApis (r : Run) (apis : List ApiGroup) : Run :=
  { r with descriptor := { r.descriptor with apis } }

theorem Phase.operations_of_groups {r : Run} {apis apis' : List ApiGroup} {e : Editor}
    {failure : Option Failure} (h : mapUntil ApiGroup.rename r.editor apis = (apis', e, failure)) :
    Phase.operations.run (r.withApis apis) = ({ r.withApis apis' with editor := e }, failure) := by
  simp only [operations, Run.withApis, h]

/-- The first operation of a run whose path is malformed, and what stands around it. -/
structure Stop (r : Run) where
  earlier : List ApiGroup
  /-- The group of the operation, as it was read. -/
  classname : String
  before : List Operation
  operation : Operation
  behind : List Operation
  later : List ApiGroup
  error : PathError
  apis_eq : r.descriptor.apis = earlier ++ ⟨classname, before ++ operation :: behind⟩ :: later
  earlier_accepted : ∀ a ∈ earlier, ∀ o ∈ a.operations, Accepts o.path
  before_accepted : ∀ o ∈ before, Accepts o.path
  malformed : placeholders operation.path = .error error

namespace Stop

variable {r : Run}

/-- There is a first malformed path wherever there is one at all. -/
theorem nonempty_iff (r : Run) :
    Nonempty (Stop r) ↔ ∃ a ∈ r.descriptor.apis, ∃ o ∈ a.operations, ¬ Accepts o.path := by
  constructor
  · rintro ⟨s⟩
    refine ⟨⟨s.classname, s.before ++ s.operation :: s.behind⟩, by simp [s.apis_eq], s.operation,
      by simp, ?_⟩
    rintro ⟨found, hfound⟩
    rw [s.malformed] at hfound
    cases hfound
  · rintro ⟨a, ha, o, ho, hbad⟩
    cases hfirst : r.descriptor.apis.findSome? fun a => a.operations.findSome? Operation.pathError?
      with
    | none =>
      simp only [List.findSome?_eq_none_iff, Operation.pathError?_eq_none_iff] at hfirst
      exact absurd (hfirst a ha o ho) hbad
    | some error =>
      obtain ⟨earlier, group, later, hapis, hgroup, hearlier⟩ :=
        List.findSome?_eq_some_iff.mp hfirst
      obtain ⟨before, operation, behind, hoperations, hoperation, hbefore⟩ :=
        List.findSome?_eq_some_iff.mp hgroup
      simp only [List.findSome?_eq_none_iff, Operation.pathError?_eq_none_iff] at hearlier hbefore
      have hmalformed : placeholders operation.path = .error error := by
        rw [Operation.pathError?] at hoperation
        cases h : placeholders operation.path with
        | error e =>
          rw [h] at hoperation
          exact congrArg Except.error (Option.some.inj hoperation)
        | ok found =>
          rw [h] at hoperation
          cases hoperation
      exact ⟨{
        earlier, classname := group.classname, before, operation, behind, later, error
        apis_eq := by rw [hapis, ← hoperations]
        earlier_accepted := hearlier
        before_accepted := hbefore
        malformed := hmalformed }⟩

def completed (s : Stop r) : List ApiGroup := s.earlier ++ [⟨s.classname, s.before⟩]

/-- The ways to the group and to the operation, by the names that were read. -/
def groupLocation (s : Stop r) : String := "apis." ++ s.classname

def location (s : Stop r) : String :=
  s.groupLocation ++ ".operations." ++ s.operation.operationId

def failure (s : Stop r) : Failure := .operation s.location (.path s.error)

/-- What a run over the earlier groups alone leaves. -/
def passed (s : Stop r) : Run := (Phase.operations.run (r.withApis s.earlier)).1

/-- What a run over all that stands before the operation leaves. -/
def reached (s : Stop r) : Run := (Phase.operations.run (r.withApis s.completed)).1

/-- The operation in that state, named but for its path. -/
def renamed (s : Stop r) : Operation × Editor :=
  s.operation.renameFields s.location s.reached.editor

/-- The names that are edited until the phase stops, those of the operation included. -/
def sites (s : Stop r) : List NameSite :=
  s.earlier.flatMap ApiGroup.sites ++ ApiGroup.sites ⟨s.classname, s.before ++ [s.operation]⟩

def named (s : Stop r) : String × Editor :=
  s.passed.editor.edit operationsPhase s.groupLocation s.classname Role.plain.tag

def renamedBefore (s : Stop r) : List Operation × Editor × Option Failure :=
  mapUntil (Operation.rename s.groupLocation) s.named.2 s.before

theorem earlier_eq (s : Stop r) :
    mapUntil ApiGroup.rename r.editor s.earlier =
      (s.passed.descriptor.apis, s.passed.editor, none) :=
  Prod.ext rfl (Prod.ext rfl (mapUntil_groups_done s.earlier_accepted r.editor))

theorem before_eq (s : Stop r) :
    mapUntil (Operation.rename s.groupLocation) s.named.2 s.before =
      (s.renamedBefore.1, s.renamedBefore.2.1, none) :=
  Prod.ext rfl (Prod.ext rfl (mapUntil_operations_done s.before_accepted s.groupLocation s.named.2))

/-- The run over the part before the operation goes through. -/
theorem run_completed (s : Stop r) :
    Phase.operations.run (r.withApis s.completed) =
      ({ r.withApis (s.passed.descriptor.apis ++ [⟨s.named.1, s.renamedBefore.1⟩]) with
        editor := s.renamedBefore.2.1 }, none) := by
  have hgroup := ApiGroup.rename_of_operations s.before_eq
  apply Phase.operations_of_groups
  rw [completed, mapUntil_append s.earlier_eq, mapUntil_of_done hgroup]
  rfl

theorem reached_editor (s : Stop r) : s.reached.editor = s.renamedBefore.2.1 := by
  rw [reached, run_completed]

/-- The whole run, told from the one over the part before the operation. -/
theorem run_eq (s : Stop r) :
    Phase.operations.run r =
      ({ r.withApis (s.passed.descriptor.apis ++
          ⟨s.named.1, s.renamedBefore.1 ++ s.renamed.1 :: s.behind⟩ :: s.later) with
        editor := s.renamed.2 }, some s.failure) := by
  have hoperation : s.operation.rename s.groupLocation s.renamedBefore.2.1 =
      (s.renamed.1, s.renamed.2, some s.failure) := by
    rw [renamed, reached_editor]
    exact Operation.rename_of_malformed s.malformed s.groupLocation s.renamedBefore.2.1
  have hoperations := mapUntil_append s.before_eq (s.operation :: s.behind)
  rw [mapUntil_of_failure hoperation] at hoperations
  have hgroup := ApiGroup.rename_of_operations hoperations
  have hgroups := mapUntil_append s.earlier_eq
    (⟨s.classname, s.before ++ s.operation :: s.behind⟩ :: s.later)
  rw [mapUntil_of_failure hgroup, ← s.apis_eq] at hgroups
  exact Phase.operations_of_groups hgroups

/-- The notes are those on the names that were edited, and no others. -/
theorem renamed_noted (s : Stop r) : s.renamed.2.Noted r.diagnostics s.sites := by
  have hstart : r.editor.Noted r.diagnostics [] := fun _ _ => (List.append_nil _).symm
  have hearlier := mapUntil_reached (Editor.Noted r.diagnostics)
    (fun _ _ a he h => ApiGroup.rename_noted he a h) s.earlier hstart
    (mapUntil_groups_done s.earlier_accepted r.editor)
  have hclass := hearlier.edit ⟨operationsPhase, s.groupLocation, s.classname, .plain⟩
  have hbefore := mapUntil_reached (Editor.Noted r.diagnostics)
    (fun _ _ o he h => Operation.rename_noted s.groupLocation he o h) s.before hclass
    (mapUntil_operations_done s.before_accepted s.groupLocation s.named.2)
  have hoperation := Operation.renameFields_noted s.groupLocation hbefore s.operation
  have hsites : s.sites = s.earlier.flatMap ApiGroup.sites ++
      [⟨operationsPhase, s.groupLocation, s.classname, .plain⟩] ++
      s.before.flatMap (Operation.sites s.groupLocation) ++
      s.operation.sites s.groupLocation := by
    simp only [sites, ApiGroup.sites, List.flatMap_append, List.flatMap_singleton,
      List.append_assoc]
    rfl
  rw [renamed, reached_editor, hsites]
  exact hoperation

/-- What the phase leaves of a run that it stops at `s`. -/
structure Outcome (s : Stop r) (stopped : Run) : Prop where
  /-- The parts before the group and before the operation go through if they are run alone. -/
  passed_done : (Phase.operations.run (r.withApis s.earlier)).2 = none
  reached_done : (Phase.operations.run (r.withApis s.completed)).2 = none
  /-- They come out as they come out then, and the rest follows as it was read. -/
  apis_eq : ∃ before : List Operation,
    s.passed.descriptor.apis.length = s.earlier.length ∧ before.length = s.before.length ∧
    s.reached.descriptor.apis = s.passed.descriptor.apis ++ [⟨s.named.1, before⟩] ∧
    stopped.descriptor.apis = s.passed.descriptor.apis ++
      ⟨s.named.1, before ++ s.renamed.1 :: s.behind⟩ :: s.later
  /-- The operation keeps its path, and has all else that it would have with a sound one. -/
  path_eq : s.renamed.1.path = s.operation.path
  renamed_eq : ∀ path, Accepts path → ∃ text naming,
    s.renamed.2.naming.renderPath path = .ok (text, naming) ∧
    ({ s.operation with path } : Operation).rename s.groupLocation s.reached.editor =
      ({ s.renamed.1 with path := text }, { s.renamed.2 with naming }, none)
  /-- Models, bag and config are those of the run, and names and codes those of the edits made. -/
  rest_eq : stopped = { r.withApis stopped.descriptor.apis with editor := s.renamed.2 }
  frame_eq : stopped.descriptor.apis.map ApiGroup.frame = r.descriptor.apis.map ApiGroup.frame
  diagnostics_eq :
    stopped.diagnostics = r.diagnostics ++ s.sites.flatMap (NameSite.notes stopped.naming)

theorem renamed_of_accepts (s : Stop r) {path : String} (h : Accepts path) :
    ∃ text naming, s.renamed.2.naming.renderPath path = .ok (text, naming) ∧
      ({ s.operation with path } : Operation).rename s.groupLocation s.reached.editor =
        ({ s.renamed.1 with path := text }, { s.renamed.2 with naming }, none) := by
  obtain ⟨found, hfound⟩ := h
  cases hrendered : s.renamed.2.naming.renderPath path with
  | error error =>
    simp only [Naming.renderPath, hfound] at hrendered
    cases hrendered
  | ok rendered =>
    have hfields : ({ s.operation with path } : Operation).renameFields s.location
        s.reached.editor = ({ s.renamed.1 with path }, s.renamed.2) := rfl
    have hlocation : ({ s.operation with path } : Operation).locationIn s.groupLocation =
        s.location := rfl
    refine ⟨rendered.1, rendered.2, rfl, ?_⟩
    simp only [Operation.rename, hlocation, hfields, hrendered]

theorem outcome (s : Stop r) : s.Outcome (Phase.operations.run r).1 where
  passed_done := mapUntil_groups_done s.earlier_accepted r.editor
  reached_done := by rw [run_completed]
  apis_eq := by
    refine ⟨s.renamedBefore.1, length_mapUntil _ _ _, length_mapUntil _ _ _, ?_, ?_⟩
    · rw [reached, run_completed]
      rfl
    · rw [run_eq]
      rfl
  path_eq := rfl
  renamed_eq _ h := s.renamed_of_accepts h
  rest_eq := by
    rw [run_eq]
    rfl
  frame_eq := Phase.operations_frame r
  diagnostics_eq := by
    rw [run_eq]
    exact s.renamed_noted _ (.refl _)

end Stop

/-- The phase stops at the first malformed path, if there is one, and says where, by the names that
were read. Everything before is left as a run over just that part leaves it, the operation lacks its
new path alone, and everything behind is as it was read. -/
theorem Phase.operations_stopped (r : Run) :
    (Nonempty (Stop r) ↔ ∃ a ∈ r.descriptor.apis, ∃ o ∈ a.operations, ¬ Accepts o.path) ∧
    ∀ s : Stop r, (Phase.operations.run r).2 = some s.failure ∧
      s.failure.chain = ["failed to mangle operation at " ++ s.location, s.error.message] ∧
      s.Outcome (Phase.operations.run r).1 := by
  refine ⟨Stop.nonempty_iff r, fun s => ⟨?_, rfl, s.outcome⟩⟩
  rw [s.run_eq]

def roomApi : ApiGroup where
  classname := "RoomApi"
  operations := [{ operationId := "listRooms", path := "/rooms" }]

def listOwned : Operation where
  operationId := "listOwned"
  path := "/of/\x7bid\x7d/pets"

def familyTree : Operation where
  operationId := "getFamilyTree"
  path := "/pets/\x7bpetId"
  params := [{ baseName := "petId", isPath := true }]

def addPet : Operation where
  operationId := "addPet"
  path := "/pets"

def vetApi : ApiGroup where
  classname := "VetApi"
  operations := [{ operationId := "listVets", path := "\x7d" }]

/-- Two malformed paths, the first of them in the middle of the second group. -/
def halfPets : Descriptor where
  apis := [roomApi, ⟨"PetApi", [listOwned, familyTree, addPet]⟩, vetApi]

def shortEditor : Editor := ⟨Naming.start { maxLength := 12, trimLength := 9 } ⟨[], []⟩, []⟩

def halfRun : Run where
  descriptor := halfPets
  config := {}
  editor :=
    (shortEditor.edit modelsPhase "models.Pet.vars.familyDoctor" "familyDoctor" Role.plain.tag).2

def halfRunStop : Stop halfRun where
  earlier := [roomApi]
  classname := "PetApi"
  before := [listOwned]
  operation := familyTree
  behind := [addPet]
  later := [vetApi]
  error := ⟨"/pets/\x7bpetId", 6, .unterminated⟩
  apis_eq := rfl
  earlier_accepted := by
    simp only [List.forall_mem_singleton, roomApi]
    exact ⟨_, rfl⟩
  before_accepted := by
    simp only [List.forall_mem_singleton, listOwned]
    exact ⟨_, rfl⟩
  malformed := by decide +kernel

theorem Phase.operations_halfRun :
    let run := Phase.operations.run halfRun
    halfRunStop.Outcome run.1 ∧
    run.2.map Failure.chain = some [
      "failed to mangle operation at apis.PetApi.operations.getFamilyTree",
      "malformed path template '/pets/\x7bpetId' at byte 6: unterminated '\x7b'"] ∧
    run.1.descriptor.apis.map ApiGroup.classname = ["room_api", "pet_api", "VetApi"] ∧
    (run.1.descriptor.apis.flatMap ApiGroup.operations).map (fun o => (o.operationId, o.path)) =
      [("list_rooms", "/rooms"), ("list_owned", "/of/\x7b iv_p_id \x7d/pets"),
        ("get_famil000", "/pets/\x7bpetId"), ("addPet", "/pets"), ("listVets", "\x7d")] ∧
    run.1.diagnostics.map Diagnostic.location =
      [some "models.Pet.vars.familyDoctor", some "apis.PetApi.operations.getFamilyTree"] := by
  intro run
  obtain ⟨hfailure, -, houtcome⟩ := (Phase.operations_stopped halfRun).2 halfRunStop
  refine ⟨houtcome, ?_, by decide +kernel, by decide +kernel, ?_⟩
  · rw [hfailure]
    decide +kernel
  · rw [houtcome.diagnostics_eq]
    decide +kernel

end AbapNaming
