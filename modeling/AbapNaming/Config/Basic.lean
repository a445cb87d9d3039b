import AbapNaming.Naming

/-! # Configuration

The settings of a run: an application name and an API version, the limits on names, and words
that are reserved beside the keywords. Names are compared in lowercase, so words and the keys of
replacements are lowered before a run starts.
-/

namespace AbapNaming

/-- The file that is looked for where none is named. -/
def configFile : String := "abapgen.toml"

structure GeneratorSettings where
  /-- Counts before the name in the descriptor. -/
  appName : Option String := none
  apiVersion : String := "1.0.0"
deriving DecidableEq, Repr

structure NamingSettings where
  limits : Limits := {}
  reservedWords : List String := []
  /-- Spellings that are used instead of an underscore in front. -/
  replacements : KeyedList String := []
deriving DecidableEq, Repr

structure Config where
  generator : GeneratorSettings := {}
  naming : NamingSettings := {}
deriving DecidableEq, Repr

def lowercase (s : String) : String := String.ofList (Text.lower s.toList)

def sortedByKey {α : Type} (l : KeyedList α) : KeyedList α :=
  l.mergeSort fun a b => decide (¬ b.1 < a.1)

namespace NamingSettings

/-- Lowers the reserved words and the keys of the replacements. -/
def normalized (s : NamingSettings) : NamingSettings :=
  { s with
    reservedWords := s.reservedWords.map lowercase
    replacements := s.replacements.map fun e => (lowercase e.1, e.2) }

def reserved (s : NamingSettings) : Reserved :=
  (Reserved.abap.addWords s.reservedWords).addReplacements (sortedByKey s.replacements)

def start (s : NamingSettings) : Naming := Naming.start s.limits s.reserved

end NamingSettings

end AbapNaming
