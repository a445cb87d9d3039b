/-! # The shortest decimal of a double

A positive double stands for all reals that round to it. Among the decimals in that interval the
ones with the fewest digits are taken, of these the nearest to the double, and of two that are
equally near the even one. All of it is arithmetic on naturals.
-/

namespace AbapNaming.Decimal

/-- The fraction and the power of two of a finite double, without its sign. -/
structure Binary where
  mantissa : Nat
  exponent : Int
deriving DecidableEq, Repr

def Binary.ofBits (bits : UInt64) : Binary :=
  let fraction := bits.toNat % Nat.pow 2 52
  let biased : Nat := bits.toNat / Nat.pow 2 52 % Nat.pow 2 11
  if biased = 0 then ⟨fraction, -1074⟩ else ⟨Nat.pow 2 52 + fraction, (biased : Int) - 1075⟩

/-- A decimal `digits * 10 ^ exponent`. -/
structure Scientific where
  digits : Nat
  exponent : Int
deriving DecidableEq, Repr

structure Ratio where
  num : Nat
  den : Nat
deriving DecidableEq, Repr

def Ratio.ofBinary (n : Nat) (q : Int) : Ratio := ⟨n * Nat.pow 2 q.toNat, Nat.pow 2 (-q).toNat⟩

def Ratio.shift (r : Ratio) (k : Int) : Ratio :=
  ⟨r.num * Nat.pow 10 (-k).toNat, r.den * Nat.pow 10 k.toNat⟩

/-- The largest `e` with `10 ^ e ≤ r`, for a positive `r` above `10 ^ -400`. -/
def Ratio.magnitude (r : Ratio) : Int :=
  ((Nat.toDigits 10 (r.num * Nat.pow 10 400 / r.den)).length : Int) - 401

/-- The reals that round to a double, on the grid of a quarter of its last place. The ends belong
to the interval if the mantissa is even. -/
structure Rounding where
  low : Nat
  middle : Nat
  high : Nat
  exponent : Int
  closed : Bool
deriving DecidableEq, Repr

/-- Below a power of two the doubles lie twice as close as above it. -/
def Rounding.ofBinary (b : Binary) : Rounding :=
  let below := if b.mantissa = Nat.pow 2 52 ∧ b.exponent ≠ -1074 then 1 else 2
  ⟨4 * b.mantissa - below, 4 * b.mantissa, 4 * b.mantissa + 2, b.exponent - 2,
    b.mantissa % 2 == 0⟩

def Rounding.holds (i : Rounding) (d : Nat) (k : Int) : Bool :=
  let low := (Ratio.ofBinary i.low i.exponent).shift k
  let high := (Ratio.ofBinary i.high i.exponent).shift k
  if i.closed then low.num ≤ d * low.den && d * high.den ≤ high.num
  else low.num < d * low.den && d * high.den < high.num

/-- The best multiple of `10 ^ k` in the interval, of the two next to the double. -/
def Rounding.onGrid? (i : Rounding) (k : Int) : Option Scientific :=
  let v := (Ratio.ofBinary i.middle i.exponent).shift k
  let d := v.num / v.den
  let past := 2 * (v.num % v.den)
  match i.holds d k, i.holds (d + 1) k with
  | true, true =>
    if past < v.den ∨ (past = v.den ∧ d % 2 = 0) then some ⟨d, k⟩ else some ⟨d + 1, k⟩
  | true, false => some ⟨d, k⟩
  | false, true => some ⟨d + 1, k⟩
  | false, false => none

def Rounding.search (i : Rounding) (k : Int) : (tries : Nat) → Scientific
  | 0 => ⟨i.middle, k⟩
  | tries + 1 => (i.onGrid? k).getD (i.search (k - 1) tries)

def Scientific.trim (s : Scientific) : (steps : Nat) → Scientific
  | 0 => s
  | steps + 1 =>
    if s.digits ≠ 0 ∧ s.digits % 10 = 0 then
      Scientific.trim ⟨s.digits / 10, s.exponent + 1⟩ steps
    else s

/-- The shortest decimal that rounds to the positive double with these bits. -/
def shortest (bits : UInt64) : Scientific :=
  let b := Binary.ofBits bits
  let top := (Ratio.ofBinary b.mantissa b.exponent).magnitude
  ((Rounding.ofBinary b).search top 18).trim 20

end AbapNaming.Decimal
