import AbapNaming.Toml.Moment

/-! # Numbers and truth values of TOML

A value that is neither quoted nor bracketed is a number, a moment or a truth value. It goes up to
the next punctuation or line end, over white space with more of it behind. Only integers and
moments keep their meaning. Digits may be separated by underscores; an integer with an underscore
is looked at closely only when its value is asked for, so digits that make no number are a value
too, but one that no setting takes.
-/

namespace AbapNaming.Toml

/-! ## Words -/

/-- Punctuation, comments, white space and line ends are not part of a word. -/
def endsWord (c : Char) : Bool :=
  decide (c ∈ ['=', ',', '[', ']', '{', '}', '#', ' ', '\t', '\r', '\n'])

def goesOn (cs : List Char) : Bool :=
  match skipSpace cs with
  | [] => false
  | c :: _ => !(endsWord c || c == '.' || c == '"' || c == apostrophe)

def splitWord : List Char → List Char × List Char
  | [] => ([], [])
  | c :: cs =>
    if !endsWord c || (isSpace c && goesOn cs) then
      let (word, rest) := splitWord cs
      (c :: word, rest)
    else ([], c :: cs)

def splitSign : List Char → Option Char × List Char
  | '+' :: body => (some '+', body)
  | '-' :: body => (some '-', body)
  | body => (none, body)

/-! ## Digits -/

def isDigitOf (base : Nat) (c : Char) : Bool := (hexDigit? c).any fun d => decide (d < base)

/-- The number that digits spell; underscores do not count. -/
def digitsValue (base : Nat) (cs : List Char) : Nat :=
  (cs.filterMap hexDigit?).foldl (fun n d => base * n + d) 0

/-- Has every underscore a digit behind it, and one before it? `before` says whether the first
character has one before it. -/
def isSeparated (isDigit : Char → Bool) (before : Bool) : List Char → Bool
  | [] => true
  | c :: cs =>
    if c = '_' then before && cs.head?.any isDigit && isSeparated isDigit false cs
    else isSeparated isDigit (isDigit c) cs

/-! ## Integers -/

/-- The base of an integer that is not decimal, and what stands for its digits. -/
def basedDigits? : List Char → Option (Nat × List Char)
  | '0' :: 'x' :: digits => some (16, digits)
  | '0' :: 'o' :: digits => some (8, digits)
  | '0' :: 'b' :: digits => some (2, digits)
  | _ => none

def basedInteger? (base : Nat) (digits : List Char) : Option Literal :=
  if digits.all (fun c => isDigitOf base c || c == '_') &&
      isSeparated (isDigitOf base) false digits then
    some (if digits.isEmpty then .other else .integer (digitsValue base digits))
  else none

def hasLeadingZero (body : List Char) : Bool := body.head? == some '0' && body.length != 1

/-- Hexadecimal digits may stand next to underscores. -/
def integer? (sign : Option Char) (body : List Char) : Option Literal :=
  if hasLeadingZero body || !isSeparated (isDigitOf 16) false body then none
  else if body.all fun c => c.isDigit || c == '_' then
    let n : Int := digitsValue 10 body
    some (.integer (if sign = some '-' then -n else n))
  else some .other

/-! ## Floats -/

def isDigitOrSeparator (c : Char) : Bool := c.isDigit || c == '_'

def dropDigits? (cs : List Char) : Option (List Char) :=
  if (cs.takeWhile isDigitOrSeparator).any Char.isDigit then
    some (cs.dropWhile isDigitOrSeparator)
  else none

def isExponentOrEnd : List Char → Bool
  | [] => true
  | c :: cs => (c == 'e' || c == 'E') && dropDigits? (splitSign cs).2 == some []

def isFractionOrExponent : List Char → Bool
  | '.' :: cs => (dropDigits? cs).any isExponentOrEnd
  | cs => isExponentOrEnd cs

def isFloat (body : List Char) : Bool :=
  let digits := (body.takeWhile isDigitOrSeparator).countP Char.isDigit
  !(body.head? == some '0' && decide (1 < digits)) &&
    (dropDigits? body).any isFractionOrExponent

/-! ## All scalars -/

def isFloatMark (c : Char) : Bool := c == '.' || c == 'e' || c == 'E'

def decimal? (sign : Option Char) (body : List Char) : Option Literal :=
  let rest := body.dropWhile Char.isDigit
  if ' ' ∈ rest then none
  else if rest.any isFloatMark then
    if isFloat body && isSeparated Char.isDigit false body then some .other else none
  else if rest.isEmpty || rest.head? == some '_' then
    if body.isEmpty then none else integer? sign body
  else none

def isTruth (word : List Char) : Bool :=
  word == ['t', 'r', 'u', 'e'] || word == ['f', 'a', 'l', 's', 'e']

/-- Infinity, or what is no number, behind its sign. -/
def isUnbounded (body : List Char) : Bool := body == ['i', 'n', 'f'] || body == ['n', 'a', 'n']

/-- Digits with a dash or a colon behind them can only begin a moment. -/
def beginsMoment (word : List Char) : Bool :=
  (word.dropWhile Char.isDigit).head?.any fun c => c == '-' || c == ':'

def scalar? (word : List Char) : Option Literal :=
  let (sign, body) := splitSign word
  if isTruth word || isUnbounded body then some .other
  else if beginsMoment body then (Moment.ofWord? word).map fun m => .moment (String.ofList m.form)
  else match basedDigits? body with
    | some (base, digits) => if sign.isSome then none else basedInteger? base digits
    | none => decimal? sign body

def scanScalar (cs : List Char) : Scanned Literal :=
  let (word, rest) := splitWord cs
  (scalar? word).map fun literal => (literal, rest)

end AbapNaming.Toml
