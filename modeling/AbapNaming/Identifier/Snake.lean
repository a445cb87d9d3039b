import AbapNaming.Text.Lowercase

/-! # Snake case

A name is brought to snake case in two passes. The first puts an underscore between a small
letter and the run of capitals behind it and lowers the text as a whole. The second turns spaces
into underscores and lowers each character by itself. Only ASCII letters make a hump.
-/

namespace AbapNaming.Snake

def startsCapital : List Char → Bool
  | [] => false
  | c :: _ => c.isUpper

/-- Puts an underscore between a small letter and the run of capitals behind it. With `inRun`
the capitals at the front belong to a run that has its underscore already. -/
def splitHumps (inRun : Bool) : List Char → List Char
  | [] => []
  | c :: cs =>
    if inRun && c.isUpper then c :: splitHumps true cs
    else if c.isLower && startsCapital cs then c :: '_' :: splitHumps true cs
    else c :: splitHumps false cs

/-- The first pass: humps apart, all in lowercase. -/
def camelChars (cs : List Char) : List Char := Text.lower (splitHumps false cs)

/-- The second pass: spaces to underscores, each character lowered by itself. -/
def sentenceChars (cs : List Char) : List Char :=
  cs.flatMap fun c => if c = ' ' then ['_'] else Text.lowerChar c

def nameChars (cs : List Char) : List Char := sentenceChars (camelChars cs)

def ofCamel (s : String) : String := String.ofList (camelChars s.toList)

def ofSentence (s : String) : String := String.ofList (sentenceChars s.toList)

/-- The form in which every identifier starts. -/
def ofName (s : String) : String := String.ofList (nameChars s.toList)

end AbapNaming.Snake
