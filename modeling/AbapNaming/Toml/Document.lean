import AbapNaming.KeyedList
import AbapNaming.Toml.Statement

/-! # TOML documents

The statements of a text build a tree of tables. No key is given twice, and how a table came
about decides what may be added to it: a table that has a header has only one, and dotted keys
only go on with tables that dotted keys began.
-/

namespace AbapNaming.Toml

/-- How a table came about. -/
inductive Origin
  /-- It has a header, or is the document itself. -/
  | header
  /-- It was named on the way to a header. -/
  | passed
  /-- It was named on the way of a dotted key. -/
  | dotted
  /-- It was written in braces, and nothing is added to it. -/
  | closed
deriving DecidableEq, Repr

inductive Value
  | text (s : String)
  | integer (n : Int)
  | moment (form : String)
  | other
  | array (items : List Value)
  /-- An array of tables that have headers, the last one first. -/
  | tables (items : List (List (String × Value)))
  | table (origin : Origin) (entries : List (String × Value))
deriving Repr

abbrev Entries := KeyedList Value

/-- Adds an entry of a dotted key. `origin` is that of the table the entries are in, and `way`
holds the key up to its last part. -/
def addEntry (origin : Origin) (entries : Entries) (key : String) (value : Value) :
    (way : List String) → (started : Bool) → Option Entries
  | [], started =>
    if started && origin != .dotted then none
    else match entries.get? key with
      | some _ => none
      | none => some (entries ++ [(key, value)])
  | part :: way, _ =>
    match entries.get? part with
    | none => (addEntry .dotted [] key value way true).map fun inner =>
        entries ++ [(part, .table .dotted inner)]
    | some (.table inner innerEntries) =>
      if inner = .dotted ∨ inner = .passed then
        (addEntry inner innerEntries key value way true).map fun changed =>
          entries.insert part (.table inner changed)
      else none
    | some _ => none

/-- Follows the key of a header to the entries in which its last part stands, and changes them
there. Tables on the way are made where they are missing. -/
def atTable (change : Entries → Option Entries) : (way : List String) → Entries → Option Entries
  | [], entries => change entries
  | part :: way, entries =>
    match entries.get? part with
    | none => (atTable change way []).map fun inner =>
        entries ++ [(part, .table .passed inner)]
    | some (.table origin inner) =>
      if origin = .closed then none
      else (atTable change way inner).map fun changed =>
        entries.insert part (.table origin changed)
    | some (.tables (last :: before)) =>
      (atTable change way last).map fun changed =>
        entries.insert part (.tables (changed :: before))
    | some _ => none

def openTable (key : String) (entries : Entries) : Option Entries :=
  match entries.get? key with
  | none => some (entries ++ [(key, .table .header [])])
  | some (.table .passed inner) => some (entries.insert key (.table .header inner))
  | some _ => none

def openNext (key : String) (entries : Entries) : Option Entries :=
  match entries.get? key with
  | none => some (entries ++ [(key, .tables [[]])])
  | some (.tables before) => some (entries.insert key (.tables ([] :: before)))
  | some _ => none

def inCurrent (change : Entries → Option Entries) (key : String) (entries : Entries) :
    Option Entries :=
  match entries.get? key with
  | some (.table origin inner) =>
    (change inner).map fun changed => entries.insert key (.table origin changed)
  | some (.tables (last :: before)) =>
    (change last).map fun changed => entries.insert key (.tables (changed :: before))
  | _ => none

def splitKey : List String → Option (List String × String)
  | [] => none
  | [key] => some ([], key)
  | part :: rest => (splitKey rest).map fun (way, key) => (part :: way, key)

mutual

/-- The value of a literal. Entries of an inline table follow the rules of dotted keys. -/
def Value.ofLiteral : Literal → Option Value
  | .text s => some (.text s)
  | .integer n => some (.integer n)
  | .moment form => some (.moment form)
  | .other => some .other
  | .array items => (ofLiterals items).map .array
  | .inlineTable entries => (ofEntries [] entries).map (.table .closed)

def Value.ofLiterals : List Literal → Option (List Value)
  | [] => some []
  | item :: items => do
    let v ← Value.ofLiteral item
    let vs ← Value.ofLiterals items
    return v :: vs

def Value.ofEntries (acc : Entries) : List (List String × Literal) → Option Entries
  | [] => some acc
  | (key, literal) :: rest => do
    let value ← Value.ofLiteral literal
    let (way, last) ← splitKey key
    let acc ← addEntry .closed acc last value way false
    Value.ofEntries acc rest

end

structure Draft where
  entries : Entries
  current : List String

def Draft.add (d : Draft) : Statement → Option Draft
  | .entry key literal => do
    let value ← Value.ofLiteral literal
    let (way, last) ← splitKey key
    let change (entries : Entries) := addEntry .header entries last value way false
    match splitKey d.current with
    | none => return { d with entries := ← change d.entries }
    | some (path, name) =>
      return { d with entries := ← atTable (inCurrent change name) path d.entries }
  | .header key => do
    let (way, last) ← splitKey key
    return ⟨← atTable (openTable last) way d.entries, key⟩
  | .arrayHeader key => do
    let (way, last) ← splitKey key
    return ⟨← atTable (openNext last) way d.entries, key⟩

/-- The entries of a whole text; nothing if it is no TOML. -/
def parse (text : String) : Option Entries := do
  let statements ← Statement.ofText text.toList
  let draft ← statements.foldlM Draft.add ⟨[], []⟩
  return draft.entries

end AbapNaming.Toml
