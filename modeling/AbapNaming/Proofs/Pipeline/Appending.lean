import AbapNaming.Proofs.Pipeline.Written
import Mathlib.Data.List.Basic
import Mathlib.Data.List.ModifyLast

/-! # Descriptors that grow at their end

Models come before operations, and operations in their order. So what is appended to the last
group, and groups that are appended, make their calls when all others have been made, and no
answer that was given changes any more.
-/

namespace AbapNaming

/-- What acts on the last item and on what is made of it in the same way acts before or after. -/
theorem map_modifyLast {α β : Type} {f : α → β} {g : α → α} {g' : β → β}
    (h : ∀ a, f (g a) = g' (f a)) (as : List α) :
    (as.modifyLast g).map f = (as.map f).modifyLast g' := by
  rcases as.eq_nil_or_concat' with rfl | ⟨as, a, rfl⟩
  · rfl
  · simp only [List.modifyLast_concat, List.map_append, List.map_cons, List.map_nil, h]

namespace ApiGroup

def appended (operations : List Operation) (a : ApiGroup) : ApiGroup :=
  { a with operations := a.operations ++ operations }

theorem calls_appended (operations : List Operation) (a : ApiGroup) :
    (a.appended operations).calls = a.calls ++ operations.flatMap Operation.calls := by
  rw [calls, calls, appended, List.flatMap_append, List.append_assoc]

theorem writtenBy_appended (n : Naming) (operations : List Operation) (a : ApiGroup) :
    (a.appended operations).writtenBy n =
      (a.writtenBy n).appended (operations.map (Operation.writtenBy n)) := by
  simp only [writtenBy, appended, List.map_append]

end ApiGroup

namespace Descriptor

/-- The descriptor with more operations in its last group, and with more groups behind it. -/
def appended (operations : List Operation) (groups : List ApiGroup) (d : Descriptor) : Descriptor :=
  { d with apis := d.apis.modifyLast (ApiGroup.appended operations) ++ groups }

theorem calls_appended (operations : List Operation) (groups : List ApiGroup) (d : Descriptor) :
    ∃ later, (d.appended operations groups).calls = d.calls ++ later := by
  simp only [calls, appended, List.flatMap_append]
  rcases d.apis.eq_nil_or_concat' with hnone | ⟨earlier, last, hlast⟩
  · refine ⟨groups.flatMap ApiGroup.calls, ?_⟩
    rw [hnone, List.append_assoc]
    rfl
  · refine ⟨operations.flatMap Operation.calls ++ groups.flatMap ApiGroup.calls, ?_⟩
    simp only [hlast, List.modifyLast_concat, List.flatMap_append, List.flatMap_cons,
      List.flatMap_nil, List.append_nil, ApiGroup.calls_appended, List.append_assoc]

end Descriptor

/-- What a state makes of an appended descriptor is appended to what it makes of the other one. -/
theorem Run.writtenBy_appended (n : Naming) (d : Descriptor) (c : Config)
    (operations : List Operation) (groups : List ApiGroup) :
    (Run.start (d.appended operations groups) c).writtenBy n =
      ((Run.start d c).writtenBy n).appended (operations.map (Operation.writtenBy n))
        (groups.map (ApiGroup.writtenBy n)) := by
  have hapis : (d.appended operations groups).apis.map (ApiGroup.writtenBy n) =
      (d.apis.map (ApiGroup.writtenBy n)).modifyLast
        (ApiGroup.appended (operations.map (Operation.writtenBy n))) ++
      groups.map (ApiGroup.writtenBy n) := by
    rw [Descriptor.appended, List.map_append,
      map_modifyLast (ApiGroup.writtenBy_appended n operations)]
  have hbag : (Run.start (d.appended operations groups) c).supportedBag =
    (Run.start d c).supportedBag := Run.supportedBag_congr rfl rfl rfl
  rw [Run.writtenBy, hbag]
  exact congrArg (Descriptor.mk · _ _) hapis

/-- A run on an appended descriptor gives all that was there before the very same values, in its
groups, models and bag, and what it hands out for the new parts comes behind: in the table of
types as in every bucket. -/
theorem runBuiltin_appended {d : Descriptor} {c : Config} {operations : List Operation}
    {groups : List ApiGroup} {r r' : Run} (h : runBuiltin (Run.start d c) = (r, none))
    (h' : runBuiltin (Run.start (d.appended operations groups) c) = (r', none)) :
    r'.descriptor = r.descriptor.appended (operations.map (Operation.writtenBy r'.naming))
      (groups.map (ApiGroup.writtenBy r'.naming)) ∧
    r.naming.Grows r'.naming := by
  obtain ⟨hnaming, hwritten⟩ := runBuiltin_written h
  have hnew := runBuiltin_descriptor h'
  have hnaming' := (runBuiltin_written h').1
  obtain ⟨later, hcalls⟩ := d.calls_appended operations groups
  have hold := hwritten later
  rw [hcalls] at hnaming'
  rw [← hnaming'] at hold
  constructor
  · rw [hnew, Run.writtenBy_appended, ← hold]
  · rw [hnaming, hnaming', Naming.after_append]
    exact Naming.grows_after _ later

def shelter : Descriptor where
  apis := [{
    classname := "ShelterApi"
    operations := [{
      operationId := "findByOwner", path := "/dogs", hasProduces := true,
      returnType := some "Dog" }] }]

/-- An operation with the bucket of the first one. -/
def findByOwnerName : Operation where
  operationId := "findByOwnerName"
  path := "/dogs/\x7bowner\x7d"
  hasProduces := true
  returnType := some "Owner"
  params := [{ baseName := "owner", isPath := true }]

def adoption : ApiGroup where
  classname := "AdoptionApi"
  operations := [{ operationId := "adopt", path := "/adoptions" }]

def nineCharacters : Config where
  naming := { limits := { maxLength := 9, trimLength := 6 } }

theorem runBuiltin_appended_shelter :
    let r := (runBuiltin (Run.start shelter nineCharacters)).1
    let grown := shelter.appended [findByOwnerName] [adoption]
    let r' := (runBuiltin (Run.start grown nineCharacters)).1
    (runBuiltin (Run.start shelter nineCharacters)).2 = none ∧
    (runBuiltin (Run.start grown nineCharacters)).2 = none ∧
    (∃ operations groups, r'.descriptor = r.descriptor.appended operations groups) ∧
    r.naming.types.entries <+: r'.naming.types.entries ∧
    r.naming.buckets.members "find_b" = ["find_by_owner"] ∧
    r'.naming.buckets.members "find_b" = ["find_by_owner", "find_by_owner_name"] := by
  intro r grown r'
  have hdone : (runBuiltin (Run.start shelter nineCharacters)).2 = none := by decide +kernel
  have hgrown : (runBuiltin (Run.start grown nineCharacters)).2 = none := by decide +kernel
  have hrun : runBuiltin (Run.start shelter nineCharacters) = (r, none) := Step.eq_of_done hdone
  have hrun' : runBuiltin (Run.start grown nineCharacters) = (r', none) := Step.eq_of_done hgrown
  have hbucket : r.naming.buckets.members "find_b" = ["find_by_owner"] := by decide +kernel
  have hbucket' : r'.naming.buckets.members "find_b" = ["find_by_owner", "find_by_owner_name"] := by
    decide +kernel
  obtain ⟨hdescriptor, hgrows⟩ := runBuiltin_appended hrun hrun'
  exact ⟨hdone, hgrown, ⟨_, _, hdescriptor⟩, hgrows.codes_prefix, hbucket, hbucket'⟩

end AbapNaming
