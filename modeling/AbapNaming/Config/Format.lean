import AbapNaming.Config.Problem
import AbapNaming.Toml.Document

/-! # Configuration files

A configuration file has two tables, and settings that are not known are refused. A table may
also be written as an array of its settings in their order.
-/

namespace AbapNaming

inductive ConfigError
  /-- The text is no configuration. -/
  | unparsable
  | invalid (problem : Problem) (span : Option Span)
  /-- The check of the settings panicked. -/
  | panic (cause : Panic)
deriving DecidableEq, Repr

namespace Config

open Toml (Entries)

/-- The settings of a table, none of which is unknown. Of an array at least `least` values have
to be there, and those past the last setting are passed over. -/
def settings? (names : List String) (least : Nat) : Toml.Value → Option Entries
  | .table _ entries =>
    if (KeyedList.keys entries).all fun k => decide (k ∈ names) then some entries else none
  | .array items => if items.length < least then none else some (names.zip items)
  | _ => none

/-- The value of a setting, or the one that holds without it. -/
def setting {α : Type} (entries : Entries) (name : String) (read : Toml.Value → Option α)
    (default : α) : Option α :=
  match entries.get? name with
  | none => some default
  | some v => read v

def text? : Toml.Value → Option String
  | .text s => some s
  | _ => none

/-- A length fits into 64 bits. -/
def length? : Toml.Value → Option Nat
  | .integer n => if 0 ≤ n ∧ n.toNat < Word.bound then some n.toNat else none
  | _ => none

def texts? : Toml.Value → Option (List String)
  | .array items => items.mapM text?
  | _ => none

/-- The key under which a moment gives its form where a table is asked for. -/
def momentKey : String := "$__toml_private_datetime"

/-- A moment counts as a table with a single entry. -/
def spellings? : Toml.Value → Option (KeyedList String)
  | .table _ entries => entries.mapM fun e => (text? e.2).map fun s => (e.1, s)
  | .moment form => some [(momentKey, form)]
  | _ => none

def generator? (v : Toml.Value) : Option GeneratorSettings := do
  let entries ← settings? ["app_name", "api_version"] 1 v
  return {
    appName := ← setting entries "app_name" (fun v => (text? v).map some) none
    apiVersion := ← setting entries "api_version" text? "1.0.0" }

def namingNames : List String := [
  "max_length", "trim_length", "global_max_length", "description_max_length",
  "reserved_words", "reserved_mappings"]

def naming? (v : Toml.Value) : Option NamingSettings := do
  let entries ← settings? namingNames 0 v
  return {
    limits := {
      maxLength := ← setting entries "max_length" length? 30
      trimLength := ← setting entries "trim_length" length? 27
      globalMaxLength := ← setting entries "global_max_length" length? 26
      descriptionMaxLength := ← setting entries "description_max_length" length? 60 }
    reservedWords := ← setting entries "reserved_words" texts? []
    replacements := ← setting entries "reserved_mappings" spellings? [] }

def ofEntries? (entries : Entries) : Option Config := do
  let entries ← settings? ["generator", "naming"] 0 (.table .header entries)
  return {
    generator := ← setting entries "generator" generator? {}
    naming := ← setting entries "naming" naming? {} }

/-- Reads the text of a configuration file; the settings are checked and normalized. -/
def ofToml (text : String) : Except ConfigError Config :=
  match (Toml.parse text).bind ofEntries? with
  | none => .error .unparsable
  | some config =>
    match config.naming.problem? with
    | .error cause => .error (.panic cause)
    | .ok (some p) => .error (.invalid p (p.span? text))
    | .ok none => .ok { config with naming := config.naming.normalized }

end Config

end AbapNaming
