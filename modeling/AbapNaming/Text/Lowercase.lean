import AbapNaming.Text.CaseTable

/-! # Lowercase text

Every character has a lowercase form of its own, one character for all but `İ`, which becomes
`i` with a combining dot. A whole text differs in one place: a capital sigma that ends a word
becomes the final `ς`. A word ends where the nearest character before is cased and the nearest
one after is not, both looked for past the case-ignorable ones.
-/

namespace AbapNaming.Text

def lowerChar (c : Char) : List Char :=
  if c.toNat < 128 then [c.toLower]
  else if c.toNat = 0x130 then ['i', Char.ofNat 0x307]
  else match lowerRuns.find? fun r => decide (r.Covers c.toNat) with
    | some r => [Char.ofNat (r.image c.toNat)]
    | none => [c]

def isCased (c : Char) : Bool := inRanges casedRanges c

def isCaseIgnorable (c : Char) : Bool := inRanges caseIgnorableRanges c

/-- Is the first character that is not passed over a cased one? -/
def meetsCased : List Char → Bool
  | [] => false
  | c :: cs => if isCaseIgnorable c then meetsCased cs else isCased c

def capitalSigma : Char := Char.ofNat 0x3A3

def smallSigma : Char := Char.ofNat 0x3C3

def finalSigma : Char := Char.ofNat 0x3C2

/-- `before` holds the characters already passed, the nearest one first. -/
def lowerAfter (before : List Char) : List Char → List Char
  | [] => []
  | c :: cs =>
    (if c = capitalSigma then
      [if meetsCased before && !meetsCased cs then finalSigma else smallSigma]
    else lowerChar c) ++ lowerAfter (c :: before) cs

/-- The lowercase form of a text, with final sigmas. -/
def lower (cs : List Char) : List Char := lowerAfter [] cs

end AbapNaming.Text
