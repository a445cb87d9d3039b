import AbapNaming.Identifier.Snake

/-! # The name of the generated interface

There is one interface for a run, so its name is cut to length without a number. Punctuation
turns into underscores, and underscores that come together are one.
-/

namespace AbapNaming.InterfaceName

def punctuation : List Char := [
  '*', '&', '$', '#', '%', '/', '-', '.', ',', ':', ';', '!', '?', Char.ofNat 39, '"', '(', ')',
  '[', ']', '{', '}', '<', '>', '+', '=', '~', '^', '|', '\\', '@']

def plainChar (c : Char) : Char := if c ∈ punctuation then '_' else c

/-- Keeps the first of each run of underscores; `after` says that one has just been passed. -/
def collapse (after : Bool) : List Char → List Char
  | [] => []
  | c :: cs =>
    if c = '_' then
      if after then collapse true cs else '_' :: collapse true cs
    else c :: collapse false cs

def chars (maxLength : Nat) (cs : List Char) : List Char :=
  collapse false (((Snake.sentenceChars cs).take maxLength).map plainChar)

/-- The interface name made from a title. Capital letters make no humps here. -/
def format (maxLength : Nat) (title : String) : String :=
  String.ofList (chars maxLength title.toList)

end AbapNaming.InterfaceName
