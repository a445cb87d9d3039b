import AbapNaming.Identifier.Suffix
import AbapNaming.KeyedList

/-! # Buckets of shortened names

A name that is too long is cut to its first characters, the key of its bucket. The names that
share a key are numbered in the order in which they first came, and the number follows the key.
-/

namespace AbapNaming

structure Buckets where
  trimLength : Nat
  entries : KeyedList (List String)
deriving DecidableEq, Repr

namespace Buckets

def empty (trimLength : Nat) : Buckets := ⟨trimLength, []⟩

/-- The first characters of a name, by which its bucket is found. -/
def key (b : Buckets) (name : String) : String := String.ofList (name.toList.take b.trimLength)

def bucket? (b : Buckets) (key : String) : Option (List String) := b.entries.get? key

def members (b : Buckets) (key : String) : List String := (b.bucket? key).getD []

def size (b : Buckets) : Nat := b.entries.length

def isEmpty (b : Buckets) : Bool := b.entries.isEmpty

/-- Puts a name into its bucket. A name that is there already changes nothing. -/
def add (b : Buckets) (name : String) : Buckets :=
  let names := b.members (b.key name)
  if name ∈ names then b
  else { b with entries := b.entries.insert (b.key name) (names ++ [name]) }

/-- The place of a name in its bucket; the place behind the last one if it is not there. -/
def position (b : Buckets) (name : String) : Nat := (b.members (b.key name)).idxOf name

/-- The key of the name's bucket followed by the number of its place. -/
def shortForm (b : Buckets) (name : String) : String := b.key name ++ suffix (b.position name)

def shorten (b : Buckets) (name : String) : String × Buckets := (b.shortForm name, b.add name)

end Buckets

end AbapNaming
