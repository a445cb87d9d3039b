import AbapNaming.Phase.Basic

/-! # Supporting data

The last phase puts the name of the interface and the API version into the bag, and sums up the
run. The application name of the configuration counts before the one in the bag.
-/

namespace AbapNaming

def supportingPhase : String := "supporting-data"

def appNameKey : String := "appName"

def interfaceNameKey : String := "intfName"

def apiVersionKey : String := "apiVersion"

def Run.appName? (r : Run) : Option String :=
  match r.config.generator.appName with
  | some name => some name
  | none => r.descriptor.bagText? appNameKey

/-- The bag with the interface's name; it is empty where the application has no name. -/
def bagWithNames (interfaceName : Option String) (bag : PropertyBag) : PropertyBag :=
  match interfaceName with
  | none => KeyedList.insert bag interfaceNameKey (.text "")
  | some name =>
    KeyedList.insert (KeyedList.insert bag appNameKey (.text name)) interfaceNameKey (.text name)

/-- The bag with an API version, where it has none of its own. -/
def bagWithVersion (version : String) (bag : PropertyBag) : PropertyBag :=
  match KeyedList.get? bag apiVersionKey with
  | some _ => bag
  | none => KeyedList.insert bag apiVersionKey (.text version)

def Run.supportedBag (r : Run) : PropertyBag :=
  bagWithVersion r.config.generator.apiVersion
    (bagWithNames (r.appName?.map r.naming.interfaceName) r.descriptor.bag)

def Run.summary (r : Run) : String :=
  "mangled " ++ toString r.descriptor.models.length ++ " model(s), " ++
    toString r.descriptor.operationCount ++ " operation(s) in " ++
    toString r.descriptor.apis.length ++ " api group(s); " ++
    toString r.naming.types.size ++ " type code(s) assigned"

theorem Run.summary_eq_append (r : Run) : ∃ counts, r.summary = "mangled " ++ counts := by
  unfold summary
  simp only [String.append_assoc]
  exact ⟨_, rfl⟩

def Phase.supportingData : Phase where
  name := supportingPhase
  description := "Format the interface name and fill the property bag"
  run r :=
    ({ r with descriptor := { r.descriptor with bag := r.supportedBag } }.report
      [⟨.info, supportingPhase, r.summary, none⟩], none)

end AbapNaming
