import AbapNaming.Decimal.Digits
import AbapNaming.Decimal.Shortest
import AbapNaming.Json.Tree
import AbapNaming.Word

/-! # Numbers of JSON

A number without point and exponent is an integer if 64 bits hold it, with or without sign. Any
other is a double, and minus zero is one too. A double is made from the leading digits that 64
bits hold and a power of ten, in one product or quotient of doubles; too large a number is none.
-/

namespace AbapNaming.Json

/-- A double is held by its bits. -/
inductive Number
  | integer (n : Int)
  | double (bits : UInt64)
deriving DecidableEq, Repr

/-- Appends digits to a significand while 64 bits hold it. The digits left over are returned. -/
def absorb (significand : Nat) : List Char → Nat × List Char
  | [] => (significand, [])
  | c :: cs =>
    let next := 10 * significand + (c.toNat - 48)
    if next < Word.bound then absorb next cs else (significand, c :: cs)

def powerOfTen (n : Nat) : Float := Float.ofScientific 1 false n

/-- `significand * 10 ^ exponent`, or nothing where it is too large. A small one is divided by
the greatest power of ten first. -/
def scale? (significand : Nat) (exponent : Int) : Option Float :=
  let f := (UInt64.ofNat significand).toFloat
  if 0 ≤ exponent then
    if exponent ≤ 308 then
      let product := f * powerOfTen exponent.toNat
      if product.isInf then none else some product
    else if significand = 0 then some 0.0 else none
  else if -308 ≤ exponent then some (f / powerOfTen (-exponent).toNat)
  else if -616 ≤ exponent then some (f / powerOfTen 308 / powerOfTen (-exponent - 308).toNat)
  else some 0.0

/-- The exponents that are counted; one beyond them decides alone. -/
def exponentBound : Nat := 2147483647

namespace Numeral

def magnitude? (n : Numeral) : Option Float :=
  let (whole, uncounted) := absorb 0 n.whole
  let (significand, ignored) := absorb whole n.fraction
  let start : Int := (uncounted.length : Int) - (n.fraction.length - ignored.length : Nat)
  match n.exponent with
  | none => scale? significand start
  | some (negative, digits) =>
    let e := Decimal.value digits
    if exponentBound < e then
      if significand ≠ 0 ∧ !negative then none else some 0.0
    else scale? significand (if negative then start - e else start + e)

def integer? (n : Numeral) : Option Int :=
  if n.fraction.isEmpty ∧ n.exponent.isNone then
    let v := Decimal.value n.whole
    if n.negative then
      if v ≠ 0 ∧ v ≤ Word.signedBound then some (-(v : Int)) else none
    else if v < Word.bound then some (v : Int) else none
  else none

def value? (n : Numeral) : Option Number :=
  match n.integer? with
  | some i => some (.integer i)
  | none => n.magnitude?.map fun f => .double (if n.negative then -f else f).toBits

end Numeral

/-- The digits of a decimal, and the position of the point behind the first of them. -/
def pointed (s : Decimal.Scientific) : List Char × Int :=
  let digits := Nat.toDigits 10 s.digits
  (digits, s.exponent + digits.length)

/-- Decimals from `0.00001` up to below ten to the sixteenth are written with a point at its
place, with at least one digit on either side; others with an exponent that has its sign. -/
def decimalText (s : Decimal.Scientific) : List Char :=
  let (digits, point) := pointed s
  if -5 < point ∧ point ≤ 0 then
    ['0', '.'] ++ List.replicate (-point).toNat '0' ++ digits
  else if 0 < point ∧ point ≤ 16 then
    let whole := point.toNat
    let zeros := List.replicate (whole - digits.length) '0'
    let fraction := digits.drop whole
    digits.take whole ++ zeros ++ '.' :: (if fraction.isEmpty then ['0'] else fraction)
  else
    let fraction := digits.drop 1
    let e := point - 1
    digits.take 1 ++ (if fraction.isEmpty then [] else '.' :: fraction) ++
      ['e', if e < 0 then '-' else '+'] ++ Nat.toDigits 10 e.natAbs

def Number.text : Number → List Char
  | .integer n => (toString n).toList
  | .double bits =>
    let magnitude := UInt64.ofNat (bits.toNat % Word.signedBound)
    (if bits.toNat < Word.signedBound then [] else ['-']) ++
      if magnitude = 0 then ['0', '.', '0'] else decimalText (Decimal.shortest magnitude)

end AbapNaming.Json
