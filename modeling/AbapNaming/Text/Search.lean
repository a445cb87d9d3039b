/-! # Search and replacement in text

Matches are taken from the left and do not overlap: after a match the search goes on behind its
last character. The needle is never empty where these functions are used.
-/

namespace AbapNaming.Text

def occursIn (needle : List Char) : List Char → Bool
  | [] => needle.isEmpty
  | c :: cs => needle.isPrefixOf (c :: cs) || occursIn needle cs

/-- Counts matches; `skip` characters still belong to the match before. -/
def countFrom (needle : List Char) : (skip : Nat) → List Char → Nat
  | _, [] => 0
  | skip + 1, _ :: cs => countFrom needle skip cs
  | 0, c :: cs =>
    if needle.isPrefixOf (c :: cs) then countFrom needle (needle.length - 1) cs + 1
    else countFrom needle 0 cs

def count (needle cs : List Char) : Nat := countFrom needle 0 cs

/-- Replaces matches; `skip` characters still belong to the match before and are dropped. -/
def replaceFrom (needle new : List Char) : (skip : Nat) → List Char → List Char
  | _, [] => []
  | skip + 1, _ :: cs => replaceFrom needle new skip cs
  | 0, c :: cs =>
    if needle.isPrefixOf (c :: cs) then new ++ replaceFrom needle new (needle.length - 1) cs
    else c :: replaceFrom needle new 0 cs

/-- The text with every match of the needle replaced. -/
def replace (needle new cs : List Char) : List Char := replaceFrom needle new 0 cs

end AbapNaming.Text
