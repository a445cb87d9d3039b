import AbapNaming.Descriptor.Format
import AbapNaming.Proofs.Json.Records
import AbapNaming.Proofs.Phase.SupportingData
import AbapNaming.Proofs.Pipeline.AllOrNothing

/-! # Descriptors are read as they were written

Each kind of record goes through its fields with the room that its lists leave. The bag is the only
part that holds values of any shape: those that were read fit, and a run adds only texts.
-/

namespace AbapNaming

open Json Json.Codec Json.Field

theorem Parameter.restores (room : Nat) (p : Parameter) :
    Parameter.recordType.codec.Restores (room + 1) p :=
  RecordType.restores (by decide) <|
    .cons (carries_mandatory (restores_text _ _)) <|
    .cons (carries_plain (restores_text _ _)) <|
    .cons (carries_plain (restores_text _ _)) <|
    .cons (carries_plain (restores_flag _ _)) <|
    .cons (carries_plain (restores_flag _ _)) <|
    .cons (carries_plain (restores_flag _ _)) <|
    .cons (carries_plain (restores_flag _ _)) .nil

theorem Operation.restores (room : Nat) (o : Operation) :
    Operation.recordType.codec.Restores (room + 3) o :=
  RecordType.restores (by decide) <|
    .cons (carries_mandatory (restores_text _ _)) <|
    .cons (carries_plain (restores_text _ _)) <|
    .cons (carries_plain (restores_text _ _)) <|
    .cons (carries_plain (restores_flag _ _)) <|
    .cons (carries_optional rfl) <|
    .cons (carries_optional rfl) <|
    .cons (carries_optional rfl) <|
    .cons (carries_plain (restores_list fun p _ => p.restores room)) .nil

theorem ApiGroup.restores (room : Nat) (a : ApiGroup) :
    ApiGroup.recordType.codec.Restores (room + 5) a :=
  RecordType.restores (by decide) <|
    .cons (carries_mandatory (restores_text _ _)) <|
    .cons (carries_plain (restores_list fun o _ => o.restores room)) .nil

theorem Property.restores (room : Nat) (p : Property) :
    Property.recordType.codec.Restores (room + 1) p :=
  RecordType.restores (by decide) <|
    .cons (carries_mandatory (restores_text _ _)) <|
    .cons (carries_plain (restores_text _ _)) <|
    .cons (carries_optional rfl) <|
    .cons (carries_optional rfl) <|
    .cons (carries_optional rfl) .nil

theorem Model.restores (room : Nat) (m : Model) :
    Model.recordType.codec.Restores (room + 3) m :=
  RecordType.restores (by decide) <|
    .cons (carries_mandatory (restores_text _ _)) <|
    .cons (carries_plain (restores_text _ _)) <|
    .cons (carries_plain (restores_text _ _)) <|
    .cons (carries_plain (restores_text _ _)) <|
    .cons (carries_optional rfl) <|
    .cons (carries_plain (restores_list fun p _ => p.restores room)) .nil

/-- A bag whose values were read inside a descriptor and hold no doubles. -/
structure PropertyBag.Storable (bag : PropertyBag) : Prop where
  fit : EntriesFit (maxDepth - 2) bag
  integral : ∀ e ∈ bag, e.2.Integral

namespace Descriptor

theorem restores {d : Descriptor} (h : PropertyBag.Storable d.bag) :
    recordType.codec.Restores maxDepth d :=
  RecordType.restores (by decide) <|
    .cons (carries_plain (restores_list fun a _ => a.restores 120)) <|
    .cons (carries_plain (restores_list fun m _ => m.restores 122)) <|
    .cons (carries_plain (restores_bag h.fit h.integral)) .nil

theorem ofJson_toJson {d : Descriptor} (h : PropertyBag.Storable d.bag) :
    ofJson d.toJson = .ok d := by
  rw [ofJson, toJson, Value.render, String.toList_ofList]
  exact (restores h).ofText

theorem entriesFit_of_ofJson {text : String} {d : Descriptor} (h : ofJson text = .ok d) :
    EntriesFit (maxDepth - 2) d.bag := by
  rw [ofJson, ofText, bind_eq_ok_iff] at h
  obtain ⟨read, hread, h⟩ := h
  obtain rfl : read = d := by
    split at h
    · cases h
    · exact Except.ok.inj h
  refine RecordType.read_induction (fun d : Descriptor => EntriesFit (maxDepth - 2) d.bag)
    (.nil _) ?_ hread
  refine List.forall_mem_cons.mpr ⟨?_, List.forall_mem_cons.mpr ⟨?_,
    List.forall_mem_singleton.mpr ?_⟩⟩
  · intro node set hset d hd
    obtain ⟨apis, -, rfl⟩ := exists_of_read_plain hset
    exact hd
  · intro node set hset d hd
    obtain ⟨models, -, rfl⟩ := exists_of_read_plain hset
    exact hd
  · intro node set hset d _
    obtain ⟨bag, hbag, rfl⟩ := exists_of_read_plain hset
    exact entriesFit_of_read hbag

end Descriptor

theorem PropertyBag.Storable.insert_text {bag : PropertyBag} (h : Storable bag) (k s : String) :
    Storable (KeyedList.insert bag k (.text s)) := by
  refine ⟨h.fit.insert k (.text s), fun e he => ?_⟩
  rcases KeyedList.mem_of_mem_insert he with rfl | he
  · exact .text s
  · exact h.integral e he

theorem Run.storable_supportedBag {r : Run} (h : PropertyBag.Storable r.descriptor.bag) :
    PropertyBag.Storable r.supportedBag :=
  Run.supportedBag_induction h fun _ k _ s h => h.insert_text k s

theorem runBuiltin_storable {d : Descriptor} {c : Config} {r : Run}
    (h : runBuiltin (Run.start d c) = (r, none)) (hd : PropertyBag.Storable d.bag) :
    PropertyBag.Storable r.descriptor.bag := by
  obtain ⟨-, rfl⟩ := runBuiltin_of_done rfl h
  exact Run.storable_supportedBag hd

/-- A descriptor that was read without doubles is written so that it is read again as it is, and so
is what a run makes of it. -/
theorem Descriptor.ofJson_again {text : String} {d : Descriptor} (h : ofJson text = .ok d)
    (hintegral : ∀ e ∈ d.bag, e.2.Integral) :
    ofJson d.toJson = .ok d ∧
    ∀ c r, runBuiltin (Run.start d c) = (r, none) →
      ofJson r.descriptor.toJson = .ok r.descriptor := by
  have hstorable : PropertyBag.Storable d.bag := ⟨entriesFit_of_ofJson h, hintegral⟩
  refine ⟨ofJson_toJson hstorable, fun c r hrun => ?_⟩
  exact ofJson_toJson (runBuiltin_storable hrun hstorable)

/-- A model without the names of its fields, and a bag with a repeated key, an escape and an object
that is not sorted. -/
def petText : String :=
  "\x7b\"models\": [[\"Pet\"]], \"additionalProperties\": \x7b\"x\": 1, " ++
    "\"y\": \x7b\"b\": -2, \"a\": null\x7d, \"x\": \"\\u0041\"\x7d\x7d"

theorem Descriptor.ofJson_again_petText :
    let d : Descriptor := {
      models := [{ name := "Pet" }]
      bag := [("x", .text "A"), ("y", .object [("a", .null), ("b", .number (.integer (-2)))])] }
    let r := (runBuiltin (Run.start d {})).1
    ofJson petText = .ok d ∧ ofJson d.toJson = .ok d ∧
    (runBuiltin (Run.start d {})).2 = none ∧ ofJson r.descriptor.toJson = .ok r.descriptor := by
  intro d r
  have hread : ofJson petText = .ok d := by decide +kernel
  have hobject : Value.Integral (.object [("a", .null), ("b", .number (.integer (-2)))]) :=
    .object (by simpa using ⟨.null, .number (by decide) (by decide)⟩)
  have hintegral : ∀ e ∈ d.bag, e.2.Integral := by simpa [d] using ⟨.text "A", hobject⟩
  have hdone : (runBuiltin (Run.start d {})).2 = none := by decide +kernel
  obtain ⟨hagain, hrun⟩ := ofJson_again hread hintegral
  exact ⟨hread, hagain, hdone, hrun {} r (Step.eq_of_done hdone)⟩

end AbapNaming
