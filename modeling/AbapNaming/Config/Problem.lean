import AbapNaming.Config.Basic
import AbapNaming.Config.KeySpan
import AbapNaming.Word

/-! # Settings that cannot be used

Each limit has to leave room for what it limits, no replacement may be empty, and no two keys of
replacements may be the same word in different letter case. The first problem counts, in a fixed
order; replacements are looked at in the order of their keys.
-/

namespace AbapNaming

inductive Problem
  | trimLengthZero
  | trimLengthTooLong (trim max : Nat)
  | globalMaxLengthZero
  | descriptionMaxLengthZero
  | emptyReplacement (word : String)
  | sameWord (earlier word : String)
deriving DecidableEq, Repr

namespace Problem

def message : Problem → String
  | .trimLengthZero => "trim_length must be at least 1"
  | .trimLengthTooLong trim max =>
    "trim_length " ++ toString trim ++ " plus the " ++ toString suffixWidth ++
      "-digit suffix exceeds max_length " ++ toString max
  | .globalMaxLengthZero => "global_max_length must be at least 1"
  | .descriptionMaxLengthZero => "description_max_length must be at least 1"
  | .emptyReplacement word => "reserved mapping for '" ++ word ++ "' is empty"
  | .sameWord earlier word =>
    "reserved mappings '" ++ earlier ++ "' and '" ++ word ++ "' differ only in case"

/-- The keys at which the problem may be shown, the best one first. -/
def keys : Problem → List String
  | .trimLengthZero => ["trim_length"]
  | .trimLengthTooLong _ _ => ["trim_length", "max_length"]
  | .globalMaxLengthZero => ["global_max_length"]
  | .descriptionMaxLengthZero => ["description_max_length"]
  | .emptyReplacement word => [word]
  | .sameWord _ word => [word]

def span? (text : String) (p : Problem) : Option Span := p.keys.findSome? (findKey text)

end Problem

/-- The first problem with replacements that come in the order of their keys. `seen` holds the
words passed, each behind its lowercase form. -/
def replacementProblem? (seen : KeyedList String) : KeyedList String → Option Problem
  | [] => none
  | (word, spelling) :: rest =>
    if spelling.isEmpty then some (.emptyReplacement word)
    else match seen.get? (lowercase word) with
      | some earlier => some (.sameWord earlier word)
      | none => replacementProblem? ((lowercase word, word) :: seen) rest

/-- The first problem with the settings. The check itself panics where the sum of the cut and the
suffix is no word. -/
def NamingSettings.problem? (s : NamingSettings) : Except Panic (Option Problem) :=
  let l := s.limits
  if l.trimLength = 0 then .ok (some .trimLengthZero)
  else (Word.add l.trimLength suffixWidth).map fun longest =>
    if l.maxLength < longest then some (.trimLengthTooLong l.trimLength l.maxLength)
    else if l.globalMaxLength = 0 then some .globalMaxLengthZero
    else if l.descriptionMaxLength = 0 then some .descriptionMaxLengthZero
    else replacementProblem? [] (sortedByKey s.replacements)

end AbapNaming
