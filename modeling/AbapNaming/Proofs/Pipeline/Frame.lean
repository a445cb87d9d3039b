import AbapNaming.Proofs.Phase.SupportingData
import AbapNaming.Proofs.Pipeline.Written

/-! # What a run leaves alone

The frame of a record is what remains of it once the fields that a run writes are blank. A run
that goes through gives every record one with the same frame in its place, and it changes the bag
under three keys only.
-/

namespace AbapNaming

namespace KeyedList

variable {α : Type}

/-- The second list is the first one but for what is under the keys of `written`: other entries
stand where they stood, and keys of `written` that were not there come behind. -/
structure KeepsExcept (written : List String) (l l' : KeyedList α) : Prop where
  keys_eq : ∃ new, keys l' = keys l ++ new ∧ ∀ k ∈ new, k ∈ written ∧ k ∉ keys l
  entry_eq : ∀ (i : Nat) (k : String) (v : α), l[i]? = some (k, v) → k ∉ written →
    l'[i]? = some (k, v)

theorem getElem?_insert_of_ne {l : KeyedList α} {i : Nat} {k k' : String} {v v' : α}
    (h : l[i]? = some (k', v')) (hk : k' ≠ k) : (insert l k v)[i]? = some (k', v') := by
  induction l generalizing i with
  | nil => simp at h
  | cons e rest ih =>
    by_cases he : e.1 = k
    · cases i with
      | zero =>
        obtain rfl : e = (k', v') := Option.some.inj h
        exact absurd he hk
      | succ i => simpa [insert, he] using h
    · cases i with
      | zero => simpa [insert, he] using h
      | succ i => simpa [insert, he] using ih h

namespace KeepsExcept

variable {written : List String} {l l' l'' : KeyedList α}

theorem refl (written : List String) (l : KeyedList α) : KeepsExcept written l l where
  keys_eq := ⟨[], (List.append_nil _).symm, by simp⟩
  entry_eq _ _ _ h _ := h

theorem trans (h : KeepsExcept written l l') (h' : KeepsExcept written l' l'') :
    KeepsExcept written l l'' where
  keys_eq := by
    obtain ⟨new, hkeys, hnew⟩ := h.keys_eq
    obtain ⟨new', hkeys', hnew'⟩ := h'.keys_eq
    refine ⟨new ++ new', by rw [hkeys', hkeys, List.append_assoc], fun k hk => ?_⟩
    rcases List.mem_append.mp hk with hk | hk
    · exact hnew k hk
    · obtain ⟨hwritten, hfresh⟩ := hnew' k hk
      rw [hkeys] at hfresh
      exact ⟨hwritten, fun h => hfresh (List.mem_append_left new h)⟩
  entry_eq i k v hv hk := h'.entry_eq i k v (h.entry_eq i k v hv hk) hk

theorem insert (l : KeyedList α) {k : String} (hk : k ∈ written) (v : α) :
    KeepsExcept written l (l.insert k v) where
  keys_eq := by
    by_cases hknown : k ∈ keys l
    · rw [keys_insert, if_pos hknown]
      exact ⟨[], (List.append_nil _).symm, by simp⟩
    · rw [keys_insert, if_neg hknown]
      refine ⟨[k], rfl, fun k' hk' => ?_⟩
      obtain rfl := List.mem_singleton.mp hk'
      exact ⟨hk, hknown⟩
  entry_eq _ _ _ h hk' := getElem?_insert_of_ne h fun h => hk' (h ▸ hk)

end KeepsExcept

end KeyedList

theorem Run.supportedBag_keeps (r : Run) :
    KeyedList.KeepsExcept runKeys r.descriptor.bag r.supportedBag :=
  Run.supportedBag_induction (.refl runKeys _) fun _ _ hk _ h => h.trans (.insert _ hk _)

namespace Property

/-- A reference stays one, whatever it refers to. -/
def frame (p : Property) : Property :=
  { p with
    baseName := ""
    dataType := ""
    complexType := p.complexType.map fun _ => ""
    description := none }

theorem frame_comp_writtenBy (n : Naming) : frame ∘ writtenBy n = frame := by
  funext p
  simp only [Function.comp_apply, frame, writtenBy, referenceUse?, Option.map_map,
    Function.comp_def]

end Property

namespace Model

/-- Only an inline schema gets the names of its variable and its file from the run. -/
def frame (m : Model) : Model :=
  { m with
    classVarName := if m.isInline then "" else m.classVarName
    classFilename := if m.isInline then "" else m.classFilename
    typeCode := none
    vars := m.vars.map Property.frame }

theorem frame_withOwnNames (m : Model) : m.withOwnNames.frame = m.frame := by
  rw [withOwnNames]
  split
  · rename_i hinline
    have hsame : ({ m with classVarName := m.name, classFilename := m.name } : Model).isInline =
      m.isInline := rfl
    simp only [frame, hsame, if_pos hinline]
  · rfl

theorem frame_comp_writtenBy (n : Naming) : frame ∘ writtenBy n = frame := by
  funext m
  have hinline : (m.writtenBy n).isInline = m.withOwnNames.isInline := rfl
  calc (m.writtenBy n).frame
      = m.withOwnNames.frame := by
        rw [frame, hinline, writtenBy, List.map_map, Property.frame_comp_writtenBy, frame,
          vars_withOwnNames]
    _ = m.frame := m.frame_withOwnNames

end Model

namespace Parameter

/-- Only a name in the query or in the path is replaced. -/
def frame (p : Parameter) : Parameter :=
  { p with
    baseName := if p.placement = .query ∨ p.placement = .path then "" else p.baseName
    paramName := ""
    dataType := "" }

theorem frame_comp_writtenBy (n : Naming) : frame ∘ writtenBy n = frame := by
  funext p
  have hplacement : (p.writtenBy n).placement = p.placement := rfl
  rw [Function.comp_apply, frame, frame, hplacement, writtenBy]
  cases p.placement <;> rfl

end Parameter

namespace Operation

def frame (o : Operation) : Operation :=
  { o with
    operationId := ""
    baseName := ""
    path := ""
    returnType := none
    params := o.params.map Parameter.frame }

theorem frame_comp_writtenBy (n : Naming) : frame ∘ writtenBy n = frame := by
  funext o
  simp only [Function.comp_apply, frame, writtenBy, List.map_map, Parameter.frame_comp_writtenBy]

end Operation

namespace ApiGroup

def frame (a : ApiGroup) : ApiGroup where
  classname := ""
  operations := a.operations.map Operation.frame

theorem frame_comp_writtenBy (n : Naming) : frame ∘ writtenBy n = frame := by
  funext a
  simp only [Function.comp_apply, frame, writtenBy, List.map_map, Operation.frame_comp_writtenBy]

end ApiGroup

/-- A run that goes through keeps every group, operation, parameter, model and property in its
place. It writes into each what its last state makes of it, and all but the fields that are blank in
a frame stays. In the bag only the entries under the run's own keys change, and new keys come behind
the old ones. -/
theorem runBuiltin_frame {d : Descriptor} {c : Config} {r : Run}
    (h : runBuiltin (Run.start d c) = (r, none)) :
    r.descriptor = (Run.start d c).writtenBy r.naming ∧
    r.descriptor.apis.map ApiGroup.frame = d.apis.map ApiGroup.frame ∧
    r.descriptor.models.map Model.frame = d.models.map Model.frame ∧
    KeyedList.KeepsExcept runKeys d.bag r.descriptor.bag := by
  have hwritten := runBuiltin_descriptor h
  refine ⟨hwritten, ?_⟩
  rw [hwritten, Run.writtenBy]
  refine ⟨?_, ?_, (Run.start d c).supportedBag_keeps⟩
  · rw [List.map_map, ApiGroup.frame_comp_writtenBy]
    rfl
  · rw [List.map_map, Model.frame_comp_writtenBy]
    rfl

def kennel : Descriptor where
  apis := [{
    classname := "KennelApi"
    operations := [{
      operationId := "listDogs"
      path := "/dogs"
      returnContainer := some "array"
      params := [{ baseName := "X-Kennel-Key" }, { baseName := "breed", isQuery := true }] }] }]
  models := [{
    name := "inline_object", classname := "InlineObject", classVarName := "inlineObject"
    vars := [{ baseName := "dogName", unescapedDescription := some "its name" }] }]
  bag := [(appNameKey, .text "Kennel"), ("basePath", .text "/v1"), (apiVersionKey, .text "2")]

theorem runBuiltin_frame_kennel :
    let r := (runBuiltin (Run.start kennel {})).1
    (runBuiltin (Run.start kennel {})).2 = none ∧
    r.descriptor.apis.map ApiGroup.frame = kennel.apis.map ApiGroup.frame ∧
    r.descriptor.models.map Model.frame = kennel.models.map Model.frame ∧
    r.descriptor.bag[1]? = some ("basePath", .text "/v1") ∧
    r.descriptor.bag.keys = [appNameKey, "basePath", apiVersionKey, interfaceNameKey] := by
  intro r
  have hdone : (runBuiltin (Run.start kennel {})).2 = none := by decide +kernel
  have hkeys : r.descriptor.bag.keys = [appNameKey, "basePath", apiVersionKey, interfaceNameKey] := by
    decide +kernel
  have hrun : runBuiltin (Run.start kennel {}) = (r, none) := Step.eq_of_done hdone
  obtain ⟨-, hapis, hmodels, hbag⟩ := runBuiltin_frame hrun
  exact ⟨hdone, hapis, hmodels, hbag.entry_eq 1 "basePath" (.text "/v1") rfl (by decide), hkeys⟩

end AbapNaming
