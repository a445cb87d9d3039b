import AbapNaming.Json.Reader
import AbapNaming.Json.Value

/-! # Codecs between values and syntax trees

A codec reads a domain value from a syntax tree and writes it as a JSON value. Reading asks for a
shape and reports the first place, from left to right, where the tree has a defect or another
shape. Containers may be nested up to a bound, but only where their content is asked for.
-/

namespace AbapNaming.Json

inductive Shape
  | text
  | flag
  | list
  | map
  | record (name : String)
deriving DecidableEq, Repr

def Shape.describe : Shape → String
  | .text => "a string"
  | .flag => "a boolean"
  | .list => "a sequence"
  | .map => "a map"
  | .record name => "struct " ++ name

inductive Found
  | null
  | bool (b : Bool)
  | number (n : Number)
  | text (s : String)
  | array
  | object
deriving DecidableEq, Repr

def ticked (s : String) : String := "\x60" ++ s ++ "\x60"

def Found.describe : Found → String
  | .null => "null"
  | .bool b => "boolean " ++ ticked (if b then "true" else "false")
  | .number (.integer n) => "integer " ++ ticked (toString n)
  | .number (.double bits) =>
    "floating point " ++ ticked (String.ofList (Number.double bits).text)
  | .text s => "string " ++ String.ofList (Text.quote s.toList)
  | .array => "sequence"
  | .object => "map"

inductive Mismatch
  | missingField (name : String)
  | duplicateField (name : String)
  | wrongShape (found : Found) (expected : Shape)
  /-- A list of fields ends before one that has to be there. -/
  | tooShort (length : Nat) (expected : Shape) (fields : Nat)
deriving DecidableEq, Repr

def Mismatch.message : Mismatch → String
  | .missingField name => "missing field " ++ ticked name
  | .duplicateField name => "duplicate field " ++ ticked name
  | .wrongShape found expected =>
    "invalid type: " ++ found.describe ++ ", expected " ++ expected.describe
  | .tooShort length expected fields =>
    "invalid length " ++ toString length ++ ", expected " ++ expected.describe ++ " with " ++
      toString fields ++ " elements"

/-- Why a text holds no value of the shape that was asked for. -/
inductive ReadError
  | flaw (f : Flaw)
  | mismatch (m : Mismatch)
deriving DecidableEq, Repr

/-- Reads a node below which so many containers may still be nested. -/
abbrev Decoder (α : Type) := (room : Nat) → Node → Except ReadError α

def malformed {α : Type} : Except ReadError α := .error (.flaw .malformed)

def requireClosed : Option Defect → Except ReadError Unit
  | none => .ok ()
  | some d => .error (.flaw d.read)

/-- The error for a node that has not the expected shape: a defect of its own comes first, and a
number has to be one that exists. -/
def wrongShape {α : Type} (expected : Shape) : Node → Except ReadError α
  | .null => .error (.mismatch (.wrongShape .null expected))
  | .bool b => .error (.mismatch (.wrongShape (.bool b) expected))
  | .number n =>
    match n.value? with
    | some v => .error (.mismatch (.wrongShape (.number v) expected))
    | none => malformed
  | .text (some s) => .error (.mismatch (.wrongShape (.text s) expected))
  | .text none => malformed
  | .array _ _ => .error (.mismatch (.wrongShape .array expected))
  | .object _ _ => .error (.mismatch (.wrongShape .object expected))
  | .broken d => .error (.flaw d.read)

/-! ## Passing over a node -/

mutual

/-- Passes over a node, which has to be free of defects but may hold anything. -/
def skip : Node → Except ReadError Unit
  | .array items defect =>
    match skipItems items with
    | .error e => .error e
    | .ok () => (defect.map fun d => .error (.flaw d.skipped)).getD (.ok ())
  | .object members defect =>
    match skipMembers members with
    | .error e => .error e
    | .ok () => (defect.map fun d => .error (.flaw d.skipped)).getD (.ok ())
  | .broken d => .error (.flaw d.skipped)
  | .null => .ok ()
  | .bool _ => .ok ()
  | .number _ => .ok ()
  | .text _ => .ok ()

def skipItems : List Node → Except ReadError Unit
  | [] => .ok ()
  | node :: rest =>
    match skip node with
    | .error e => .error e
    | .ok () => skipItems rest

def skipMembers : List (TextToken × Node) → Except ReadError Unit
  | [] => .ok ()
  | (_, node) :: rest =>
    match skip node with
    | .error e => .error e
    | .ok () => skipMembers rest

end

/-! ## Reading any value -/

mutual

/-- Reads a value of any shape. The members of an object are sorted by key, and the last one
with a key counts. -/
def decodeValue (room : Nat) : Node → Except ReadError Value
  | .null => .ok .null
  | .bool b => .ok (.bool b)
  | .number n =>
    match n.value? with
    | some v => .ok (.number v)
    | none => malformed
  | .text (some s) => .ok (.text s)
  | .text none => malformed
  | .array items defect =>
    match room with
    | 0 => malformed
    | room + 1 => do
      let vs ← decodeItems room items
      requireClosed defect
      return .array vs
  | .object members defect =>
    match room with
    | 0 => malformed
    | room + 1 => do
      let ms ← decodeMembers room members
      requireClosed defect
      return .object (ms.foldl (fun sorted m => insertSorted m.1 m.2 sorted) [])
  | .broken d => .error (.flaw d.read)

def decodeItems (room : Nat) : List Node → Except ReadError (List Value)
  | [] => .ok []
  | node :: rest => do
    let v ← decodeValue room node
    let vs ← decodeItems room rest
    return v :: vs

/-- Members in the order of the text, repeated keys included. -/
def decodeMembers (room : Nat) :
    List (TextToken × Node) → Except ReadError (List (String × Value))
  | [] => .ok []
  | (none, _) :: _ => malformed
  | (some k, node) :: rest => do
    let v ← decodeValue room node
    let ms ← decodeMembers room rest
    return (k, v) :: ms

end

/-! ## Codecs -/

structure Codec (α : Type) where
  read : Decoder α
  write : α → Value

namespace Codec

def text : Codec String where
  read _ := fun
    | .text (some s) => .ok s
    | node => wrongShape .text node
  write := .text

def flag : Codec Bool where
  read _ := fun
    | .bool b => .ok b
    | node => wrongShape .flag node
  write := .bool

def list {α : Type} (item : Codec α) : Codec (List α) where
  read room := fun
    | .array items defect =>
      match room with
      | 0 => malformed
      | room + 1 => do
        let xs ← items.mapM (item.read room)
        requireClosed defect
        return xs
    | node => wrongShape .list node
  write xs := .array (xs.map item.write)

/-- Entries of any value. A repeated key keeps its first place and takes the last value. -/
def bag : Codec (KeyedList Value) where
  read room := fun
    | .object members defect =>
      match room with
      | 0 => malformed
      | room + 1 => do
        let ms ← decodeMembers room members
        requireClosed defect
        return ms.foldl (fun l m => KeyedList.insert l m.1 m.2) []
    | node => wrongShape .map node
  write := .object

/-- Null stands for a value that is not there. -/
def optional {α : Type} (c : Codec α) : Codec (Option α) where
  read room := fun
    | .null => .ok none
    | node => (c.read room node).map some
  write := fun
    | none => .null
    | some a => c.write a

end Codec

end AbapNaming.Json
