import AbapNaming.Phase.SupportingData
import AbapNaming.Proofs.Identifier.InterfaceName
import AbapNaming.Proofs.KeyedList

/-! # The bag of a run

Whatever the last phase does to the bag, it puts texts under three keys. What it puts there it would
put there again: the name that is found a second time is an interface name already.
-/

namespace AbapNaming

/-- The keys under which a run puts entries into the bag. -/
def runKeys : List String := [appNameKey, interfaceNameKey, apiVersionKey]

/-- What holds of the bag, and still holds once a text was put under a key of the run, holds of the
bag that the run leaves. -/
theorem Run.supportedBag_induction {P : PropertyBag → Prop} {r : Run} (hbag : P r.descriptor.bag)
    (hinsert : ∀ bag : PropertyBag, ∀ k ∈ runKeys, ∀ s : String, P bag →
      P (bag.insert k (.text s))) : P r.supportedBag := by
  have happ : appNameKey ∈ runKeys := by simp [runKeys]
  have hinterface : interfaceNameKey ∈ runKeys := by simp [runKeys]
  have hversion : apiVersionKey ∈ runKeys := by simp [runKeys]
  have hnames (interfaceName : Option String) :
      P (bagWithNames interfaceName r.descriptor.bag) := by
    cases interfaceName with
    | none => exact hinsert _ _ hinterface _ hbag
    | some name => exact hinsert _ _ hinterface _ (hinsert _ _ happ _ hbag)
  rw [supportedBag, bagWithVersion]
  split
  · exact hnames _
  · exact hinsert _ _ hversion _ (hnames _)

open KeyedList

theorem get?_bagWithNames (name? : Option String) (bag : PropertyBag) (k : String) :
    get? (bagWithNames name? bag) k =
      if interfaceNameKey = k then some (.text (name?.getD ""))
      else if appNameKey = k then (name?.map Json.Value.text).or (get? bag k)
      else get? bag k := by
  cases name? with
  | none => simp [bagWithNames]
  | some name => simp [bagWithNames]

theorem get?_bagWithVersion (version : String) (bag : PropertyBag) (k : String) :
    get? (bagWithVersion version bag) k =
      if apiVersionKey = k then some ((get? bag k).getD (.text version)) else get? bag k := by
  rw [bagWithVersion]
  cases hversion : get? bag apiVersionKey with
  | none =>
    by_cases hk : apiVersionKey = k
    · subst hk
      simp [hversion]
    · simp [hk]
  | some v =>
    by_cases hk : apiVersionKey = k
    · subst hk
      simp [hversion]
    · simp [hk]

theorem bagWithNames_eq_self {name? : Option String} {bag : PropertyBag}
    (hinterface : get? bag interfaceNameKey = some (.text (name?.getD "")))
    (happ : ∀ name ∈ name?, get? bag appNameKey = some (.text name)) :
    bagWithNames name? bag = bag := by
  cases name? with
  | none => exact insert_eq_self hinterface
  | some name =>
    have hname := insert_eq_self (happ name rfl)
    rw [bagWithNames, hname]
    exact insert_eq_self hinterface

theorem bagWithVersion_eq_self {version : String} {bag : PropertyBag}
    (h : apiVersionKey ∈ keys bag) : bagWithVersion version bag = bag := by
  obtain ⟨v, hv⟩ := exists_get?_of_mem_keys h
  rw [bagWithVersion, hv]

namespace Run

variable {r r' : Run}

theorem appName?_again (hconfig : r'.config = r.config) (hnaming : r'.naming = r.naming)
    (hbag : r'.descriptor.bag = r.supportedBag) :
    r'.appName?.map r'.naming.interfaceName = r.appName?.map r.naming.interfaceName := by
  rw [appName?, appName?, hconfig, hnaming]
  cases hname : r.config.generator.appName with
  | some name => rfl
  | none =>
    have hkeys : apiVersionKey ≠ appNameKey ∧ interfaceNameKey ≠ appNameKey := by decide
    have hget : get? r.supportedBag appNameKey =
        ((r.appName?.map r.naming.interfaceName).map Json.Value.text).or
          (get? r.descriptor.bag appNameKey) := by
      rw [supportedBag, get?_bagWithVersion, if_neg hkeys.1, get?_bagWithNames, if_neg hkeys.2,
        if_pos rfl]
    simp only [Descriptor.bagText?, hbag, hget, appName?, hname]
    cases htext : (get? r.descriptor.bag appNameKey).bind Json.Value.text? with
    | none => simpa using htext
    | some title =>
      -- What is found the second time has been formatted.
      simp [Json.Value.text?, Naming.interfaceName, InterfaceName.format_format]

/-- A second run puts nothing into the bag that the first one has not put there. -/
theorem supportedBag_again (hconfig : r'.config = r.config) (hnaming : r'.naming = r.naming)
    (hbag : r'.descriptor.bag = r.supportedBag) : r'.supportedBag = r.supportedBag := by
  have hkeys : apiVersionKey ≠ appNameKey ∧ apiVersionKey ≠ interfaceNameKey ∧
      interfaceNameKey ≠ appNameKey := by decide
  rw [supportedBag, appName?_again hconfig hnaming hbag, hbag]
  generalize hname : r.appName?.map r.naming.interfaceName = name?
  have hbag' : r.supportedBag = bagWithVersion r.config.generator.apiVersion
      (bagWithNames name? r.descriptor.bag) := by rw [supportedBag, hname]
  have hinterface : get? r.supportedBag interfaceNameKey = some (.text (name?.getD "")) := by
    rw [hbag', get?_bagWithVersion, if_neg hkeys.2.1, get?_bagWithNames, if_pos rfl]
  have happ : ∀ name ∈ name?, get? r.supportedBag appNameKey = some (.text name) := by
    rintro name rfl
    rw [hbag', get?_bagWithVersion, if_neg hkeys.1, get?_bagWithNames, if_neg hkeys.2.2,
      if_pos rfl]
    rfl
  have hversion : apiVersionKey ∈ keys r.supportedBag := by
    apply mem_keys_of_mem
    apply mem_of_get?_eq_some
    rw [hbag', get?_bagWithVersion, if_pos rfl]
  rw [bagWithNames_eq_self hinterface happ, bagWithVersion_eq_self hversion]

end Run

/-- A second run of the last phase leaves the bag as the first one left it, whatever was in it and
whatever the settings are, and only tells the same summary again. That is so because an interface
name is not changed when it is formatted. -/
theorem Phase.supportingData_again (r : Run) :
    let once := (Phase.supportingData.run r).1
    (Phase.supportingData.run once).1.descriptor.bag = once.descriptor.bag ∧
    Phase.supportingData.run once =
      (once.report [⟨.info, supportingPhase, r.summary, none⟩], none) ∧
    ∀ (maxLength : Nat) (title : String),
      InterfaceName.format maxLength (InterfaceName.format maxLength title) =
        InterfaceName.format maxLength title := by
  intro once
  have hbag : once.supportedBag = once.descriptor.bag :=
    Run.supportedBag_again (r := r) rfl rfl rfl
  refine ⟨hbag, ?_, InterfaceName.format_format⟩
  simp only [Phase.supportingData, hbag]
  rfl

end AbapNaming
