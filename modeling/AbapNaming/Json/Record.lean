import AbapNaming.Json.Codec

/-! # Records

A record is read from an object with its fields in any order, or from an array with their values
in the order of declaration. Other members of an object are passed over. It is always written as
an object, in the order of declaration.
-/

namespace AbapNaming.Json

structure Field (σ : Type) where
  name : String
  required : Bool
  /-- Reads the field's value and gives the change that sets it. -/
  read : Decoder (σ → σ)
  /-- The field's value; nothing where it is left out. -/
  write : σ → Option Value

namespace Field

def plain {σ α : Type} (name : String) (c : Codec α) (get : σ → α) (set : σ → α → σ) :
    Field σ where
  name := name
  required := false
  read room node := (c.read room node).map fun a s => set s a
  write s := some (c.write (get s))

def mandatory {σ α : Type} (name : String) (c : Codec α) (get : σ → α) (set : σ → α → σ) :
    Field σ :=
  { plain name c get set with required := true }

/-- A field that is left out where it has no value. -/
def optional {σ α : Type} (name : String) (c : Codec α) (get : σ → Option α)
    (set : σ → Option α → σ) : Field σ where
  name := name
  required := false
  read room node := (c.optional.read room node).map fun a s => set s a
  write s := (get s).map c.write

end Field

/-- A kind of record: its name in messages, its fields, and the record before any is set. -/
structure RecordType (σ : Type) where
  name : String
  fields : List (Field σ)
  blank : σ

namespace RecordType

variable {σ : Type}

/-- Reads members one by one into `acc`; `seen` holds the names of the fields read so far. -/
def readMembers (t : RecordType σ) (room : Nat) (acc : σ) (seen : List String) :
    List (TextToken × Node) → Except ReadError (σ × List String)
  | [] => .ok (acc, seen)
  | (none, _) :: _ => malformed
  | (some key, node) :: rest =>
    match t.fields.find? (·.name == key) with
    | none => do
      skip node
      t.readMembers room acc seen rest
    | some field => do
      if key ∈ seen then throw (.mismatch (.duplicateField key))
      let set ← field.read room node
      t.readMembers room (set acc) (key :: seen) rest

def missing? (t : RecordType σ) (seen : List String) : Option String :=
  (t.fields.find? fun f => f.required && decide (f.name ∉ seen)).map (·.name)

/-- Reads values in the order of the fields. Where the array ends all fields that are left have
to be dispensable; `index` counts the values read. -/
def readPositions (t : RecordType σ) (room : Nat) (defect : Option Defect) (acc : σ)
    (index : Nat) : List (Field σ) → List Node → Except ReadError σ
  | [], [] => do
    requireClosed defect
    return acc
  | [], _ :: _ => malformed
  | field :: fields, [] => do
    requireClosed defect
    if field.required then
      throw (.mismatch (.tooShort index (.record t.name) t.fields.length))
    t.readPositions room defect acc (index + 1) fields []
  | field :: fields, node :: rest => do
    let set ← field.read room node
    t.readPositions room defect (set acc) (index + 1) fields rest

def read (t : RecordType σ) (room : Nat) : Node → Except ReadError σ
  | .object members defect =>
    match room with
    | 0 => malformed
    | room + 1 => do
      let (record, seen) ← t.readMembers room t.blank [] members
      requireClosed defect
      match t.missing? seen with
      | some name => throw (.mismatch (.missingField name))
      | none => return record
  | .array items defect =>
    match room with
    | 0 => malformed
    | room + 1 => t.readPositions room defect t.blank 0 t.fields items
  | node => wrongShape (.record t.name) node

def write (t : RecordType σ) (record : σ) : Value :=
  .object (t.fields.filterMap fun f => (f.write record).map fun v => (f.name, v))

def codec (t : RecordType σ) : Codec σ := ⟨t.read, t.write⟩

end RecordType

/-- How many containers may be nested in a text. -/
def maxDepth : Nat := 127

/-- Reads a text that holds one record and nothing else. -/
def Codec.ofText {α : Type} (c : Codec α) (text : List Char) : Except ReadError α := do
  let document := Document.ofText text
  let a ← c.read maxDepth document.root
  if document.hasMore then malformed
  return a

end AbapNaming.Json
