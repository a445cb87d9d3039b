import AbapNaming.Decimal.Digits
import AbapNaming.Toml.Literal

/-! # Dates and times of TOML

A moment is a date, a time of day, or both with a distance from universal time. It may be written
with small letters, with a space between date and time, without seconds, and with more digits than
are kept; its standard form has none of this.
-/

namespace AbapNaming.Toml

def scanNumber (length : Nat) (cs : List Char) : Scanned Nat :=
  let digits := cs.take length
  if digits.length = length ∧ digits.all Char.isDigit then
    some (Decimal.value digits, cs.drop length)
  else none

def scanBehind (mark : Char) : List Char → Scanned Nat
  | [] => none
  | c :: cs => if c = mark then scanNumber 2 cs else none

/-! ## Dates -/

structure Date where
  year : Nat
  month : Nat
  day : Nat
deriving DecidableEq, Repr

namespace Date

def isLeapYear (year : Nat) : Bool :=
  year % 4 == 0 && (year % 100 != 0 || year % 400 == 0)

def daysOfMonth (year month : Nat) : Nat :=
  if month = 2 then (if isLeapYear year then 29 else 28)
  else if month ∈ [4, 6, 9, 11] then 30
  else 31

def isValid (d : Date) : Bool :=
  decide (1 ≤ d.month ∧ d.month ≤ 12 ∧ 1 ≤ d.day ∧ d.day ≤ daysOfMonth d.year d.month)

def scan (cs : List Char) : Option (Date × List Char) := do
  let (year, cs) ← scanNumber 4 cs
  let (month, cs) ← scanBehind '-' cs
  let (day, cs) ← scanBehind '-' cs
  return (⟨year, month, day⟩, cs)

def form (d : Date) : List Char :=
  Decimal.padded 4 d.year ++ '-' :: Decimal.padded 2 d.month ++ '-' :: Decimal.padded 2 d.day

end Date

/-! ## Times of day -/

structure Clock where
  hour : Nat
  minute : Nat
  second : Nat
  /-- The digits of the fraction of a second. -/
  fraction : List Char
deriving DecidableEq, Repr

namespace Clock

/-- A minute may have a leap second. -/
def isValid (c : Clock) : Bool :=
  decide (c.hour ≤ 23 ∧ c.minute ≤ 59 ∧ c.second ≤ 60)

def scanFraction : List Char → Scanned (List Char)
  | '.' :: cs =>
    let digits := cs.takeWhile Char.isDigit
    if digits.isEmpty then none else some (digits, cs.dropWhile Char.isDigit)
  | cs => some ([], cs)

/-- Reads a time of day; seconds that are left out are none. -/
def scan (cs : List Char) : Option (Clock × List Char) := do
  let (hour, cs) ← scanNumber 2 cs
  let (minute, cs) ← scanBehind ':' cs
  match scanBehind ':' cs with
  | none => return (⟨hour, minute, 0, []⟩, cs)
  | some (second, cs) =>
    let (fraction, cs) ← scanFraction cs
    return (⟨hour, minute, second, fraction⟩, cs)

/-- Nine digits of a fraction are kept, without zeros at the end. -/
def fractionForm (digits : List Char) : List Char :=
  let kept := ((digits.take 9).reverse.dropWhile (· == '0')).reverse
  if kept.isEmpty then [] else '.' :: kept

def form (c : Clock) : List Char :=
  Decimal.padded 2 c.hour ++ ':' :: Decimal.padded 2 c.minute ++ ':' :: Decimal.padded 2 c.second ++
    fractionForm c.fraction

end Clock

/-! ## Distances from universal time -/

inductive Offset
  | universal
  | east (minutes : Nat)
  | west (minutes : Nat)
deriving DecidableEq, Repr

namespace Offset

/-- Reads hours and minutes, together less than a day. -/
def scanMinutes (cs : List Char) : Option (Nat × List Char) := do
  let (hours, cs) ← scanNumber 2 cs
  let (minutes, cs) ← scanBehind ':' cs
  if hours ≤ 23 ∧ minutes ≤ 59 then some (60 * hours + minutes, cs) else none

def scan : List Char → Scanned Offset
  | 'Z' :: cs => some (.universal, cs)
  | 'z' :: cs => some (.universal, cs)
  | '+' :: cs => (scanMinutes cs).map fun (minutes, cs) => (.east minutes, cs)
  | '-' :: cs => (scanMinutes cs).map fun (minutes, cs) => (.west minutes, cs)
  | _ => none

def minutesForm (minutes : Nat) : List Char :=
  Decimal.padded 2 (minutes / 60) ++ ':' :: Decimal.padded 2 (minutes % 60)

/-- No distance at all is one to the east. -/
def form : Offset → List Char
  | .universal => ['Z']
  | .east minutes => '+' :: minutesForm minutes
  | .west minutes => (if minutes = 0 then '+' else '-') :: minutesForm minutes

end Offset

/-! ## Moments -/

inductive Moment
  | date (d : Date)
  | clock (c : Clock)
  | both (d : Date) (c : Clock) (offset : Option Offset)
deriving DecidableEq, Repr

namespace Moment

def isValid : Moment → Bool
  | .date d => d.isValid
  | .clock c => c.isValid
  | .both d c _ => d.isValid && c.isValid

def form : Moment → List Char
  | .date d => d.form
  | .clock c => c.form
  | .both d c none => d.form ++ 'T' :: c.form
  | .both d c (some o) => d.form ++ 'T' :: c.form ++ o.form

def isSeparator (c : Char) : Bool := c == 'T' || c == 't' || c == ' '

/-- The moment that a whole word spells, valid or not. -/
def spelled? (cs : List Char) : Option Moment :=
  match Date.scan cs with
  | none =>
    match Clock.scan cs with
    | some (c, []) => some (.clock c)
    | _ => none
  | some (d, []) => some (.date d)
  | some (d, separator :: cs) =>
    if isSeparator separator then
      match Clock.scan cs with
      | none => none
      | some (c, []) => some (.both d c none)
      | some (c, cs) =>
        match Offset.scan cs with
        | some (o, []) => some (.both d c (some o))
        | _ => none
    else none

def ofWord? (cs : List Char) : Option Moment := (spelled? cs).filter isValid

end Moment

end AbapNaming.Toml
