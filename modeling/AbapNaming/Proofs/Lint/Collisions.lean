import Mathlib.Data.List.Basic
import AbapNaming.Lint.Collisions

/-! # What the findings on names tell

Each name is reported if an earlier one has its form, once, and with the first such name. So
nothing is reported exactly where the forms are distinct. What becomes of a form when it is cut or
escaped does not count here.
-/

namespace AbapNaming

def firstAlike? (earlier : List String) (name : String) : Option Nat :=
  earlier.findIdx? fun other => decide (Snake.ofName other = Snake.ofName name)

/-- What is to be reported of a name behind the earlier ones. -/
def meeting? (earlier : List String) (name : String) : Option Collision :=
  (firstAlike? earlier name).bind fun place =>
    earlier[place]?.map fun first => ⟨name, first, Snake.ofName name⟩

theorem meeting?_eq_find? (earlier : List String) (name : String) :
    meeting? earlier name =
      (earlier.find? fun other => decide (Snake.ofName other = Snake.ofName name)).map
        fun first => ⟨name, first, Snake.ofName name⟩ := by
  rw [meeting?, firstAlike?, List.find?_eq_bind_findIdx?_getElem?, Option.map_bind]
  rfl

theorem meeting?_eq_none_iff (earlier : List String) (name : String) :
    meeting? earlier name = none ↔ ∀ other ∈ earlier, Snake.ofName other ≠ Snake.ofName name := by
  simp [meeting?_eq_find?]

/-- The table of forms holds the first name of each form. -/
def Remembers (seen : KeyedList String) (earlier : List String) : Prop :=
  ∀ form, seen.get? form = earlier.find? fun other => decide (Snake.ofName other = form)

section

variable {seen : KeyedList String} {earlier : List String} {name : String}

theorem Remembers.keep (h : Remembers seen earlier) {first : String}
    (hfirst : seen.get? (Snake.ofName name) = some first) : Remembers seen (earlier ++ [name]) := by
  intro form
  rw [List.find?_append, ← h form]
  by_cases hform : Snake.ofName name = form
  · subst hform
    rw [hfirst, Option.some_or]
  · simp [hform]

theorem Remembers.extend (h : Remembers seen earlier)
    (hnew : seen.get? (Snake.ofName name) = none) :
    Remembers (seen ++ [(Snake.ofName name, name)]) (earlier ++ [name]) := by
  intro form
  rw [KeyedList.get?_append, List.find?_append, ← h form]
  by_cases hform : Snake.ofName name = form
  · subst hform
    rw [hnew]
    simp
  · simp [hform]

theorem collisions_of_remembers (h : Remembers seen earlier) (names : List String) :
    collisions seen names = names.mapIdx fun i name => meeting? (earlier ++ names.take i) name := by
  induction names generalizing seen earlier with
  | nil => rfl
  | cons name names ih =>
    have hmeeting : meeting? earlier name =
        (seen.get? (Snake.ofName name)).map fun first => ⟨name, first, Snake.ofName name⟩ := by
      rw [h, meeting?_eq_find?]
    rw [collisions, List.mapIdx_cons, List.take_zero, List.append_nil, hmeeting]
    cases hfirst : seen.get? (Snake.ofName name) with
    | some first =>
      simp only [Option.map_some, List.cons.injEq, true_and, List.take_succ_cons]
      rw [ih (h.keep hfirst)]
      simp only [List.append_assoc, List.singleton_append]
    | none =>
      simp only [Option.map_none, List.cons.injEq, true_and, List.take_succ_cons]
      rw [ih (h.extend hfirst)]
      simp only [List.append_assoc, List.singleton_append]

end

/-- Each name is reported for what it meets among those before it. -/
theorem collisions_eq_mapIdx (names : List String) :
    collisions [] names = names.mapIdx fun i name => meeting? (names.take i) name := by
  have hnone : Remembers [] [] := fun _ => rfl
  exact collisions_of_remembers hnone names

theorem flatMap_zip_mapIdx {α β γ : Type} (items : List α) (found : Nat → α → β)
    (report : α × β → List γ) :
    (items.zip (items.mapIdx found)).flatMap report =
      (items.mapIdx fun i a => report (a, found i a)).flatten := by
  induction items generalizing found with
  | nil => rfl
  | cons a items ih =>
    rw [List.mapIdx_cons, List.mapIdx_cons, List.zip_cons_cons, List.flatMap_cons, ih,
      List.flatten_cons]

theorem mapIdx_map {α β γ : Type} (items : List α) (key : α → β) (f : Nat → β → γ) :
    (items.map key).mapIdx f = items.mapIdx fun i a => f i (key a) := by
  induction items generalizing f with
  | nil => rfl
  | cons a items ih => rw [List.map_cons, List.mapIdx_cons, List.mapIdx_cons, ih]

/-- The findings on items that are told apart by a name. -/
theorem flatMap_zip_collisions {α : Type} (items : List α) (key : α → String)
    (report : α × Option Collision → List Diagnostic) :
    (items.zip (collisions [] (items.map key))).flatMap report =
      (items.mapIdx fun i a =>
        report (a, meeting? ((items.take i).map key) (key a))).flatten := by
  rw [collisions_eq_mapIdx, mapIdx_map, flatMap_zip_mapIdx]
  simp only [List.map_take]

theorem operationCollisions_eq (a : ApiGroup) :
    operationCollisions a = (a.operations.mapIdx fun i o =>
      collisionDiagnostics "operation" (o.locationIn a.location)
        (meeting? ((a.operations.take i).map (·.operationId)) o.operationId)).flatten :=
  flatMap_zip_collisions a.operations (·.operationId) _

/-- The whole report: group by group, what the group meets and then what its operations do. -/
theorem Lint.collisions_check (d : Descriptor) :
    Lint.collisions.check d = (d.apis.mapIdx fun i a =>
      collisionDiagnostics "api group" a.location
        (meeting? ((d.apis.take i).map (·.classname)) a.classname) ++
      operationCollisions a).flatten :=
  flatMap_zip_collisions d.apis (·.classname) _

theorem collisionDiagnostics_eq_nil_iff (kind location : String) (c : Option Collision) :
    collisionDiagnostics kind location c = [] ↔ c = none := by
  cases c <;> simp [collisionDiagnostics]

/-- No name meets one before it exactly if the forms are distinct. -/
theorem meetings_eq_none_iff (names : List String) :
    (∀ (i : Nat) (h : i < names.length), meeting? (names.take i) names[i] = none) ↔
      (names.map Snake.ofName).Nodup := by
  rw [List.Nodup, List.pairwise_map, List.pairwise_iff_getElem]
  simp only [meeting?_eq_none_iff]
  constructor
  · intro h i j hi hj hij
    exact h j hj names[i] (List.mem_take_iff_getElem.mpr ⟨i, Nat.lt_min.mpr ⟨hij, hi⟩, rfl⟩)
  · intro h j hj other hother
    obtain ⟨i, hi, rfl⟩ := List.mem_take_iff_getElem.mp hother
    obtain ⟨hij, hi⟩ := Nat.lt_min.mp hi
    exact h i j hi hj hij

theorem flatten_meetings_eq_nil_iff {α : Type} (items : List α) (key location : α → String)
    (kind : String) (more : α → List Diagnostic) :
    (items.mapIdx fun i a =>
      collisionDiagnostics kind (location a) (meeting? ((items.take i).map key) (key a)) ++
        more a).flatten = [] ↔
      ((items.map key).map Snake.ofName).Nodup ∧ ∀ a ∈ items, more a = [] := by
  simp only [List.flatten_eq_nil_iff, List.forall_mem_iff_getElem, List.length_mapIdx,
    List.getElem_mapIdx, List.append_eq_nil_iff, collisionDiagnostics_eq_nil_iff,
    ← meetings_eq_none_iff, List.length_map, List.getElem_map, List.map_take, forall_and]

/-- Nothing is reported exactly if the forms of the groups are distinct, and in each group those of
its operations. -/
theorem Lint.collisions_check_eq_nil_iff (d : Descriptor) :
    Lint.collisions.check d = [] ↔
      ((d.apis.map (·.classname)).map Snake.ofName).Nodup ∧
        ∀ a ∈ d.apis, ((a.operations.map (·.operationId)).map Snake.ofName).Nodup := by
  have hoperations (a : ApiGroup) : operationCollisions a = [] ↔
      ((a.operations.map (·.operationId)).map Snake.ofName).Nodup := by
    have h := flatten_meetings_eq_nil_iff a.operations (·.operationId)
      (fun o => o.locationIn a.location) "operation" fun _ => []
    simp only [List.append_nil, implies_true, and_true] at h
    rw [operationCollisions_eq, h]
  rw [Lint.collisions_check, flatten_meetings_eq_nil_iff d.apis (·.classname) ApiGroup.location]
  simp only [hoperations]

end AbapNaming
