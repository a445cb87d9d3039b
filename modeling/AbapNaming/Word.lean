/-! # Words of 64 bits

Lengths and most integers are held in words of 64 bits. A sum of lengths that no word holds ends the
program in a panic.
-/

namespace AbapNaming

/-- The end of a program that has no answer to give. -/
inductive Panic
  | overflow
deriving DecidableEq, Repr

def Panic.message : Panic → String
  | .overflow => "attempt to add with overflow"

namespace Word

/-- The least number that a word does not hold. -/
def bound : Nat := 18446744073709551616

/-- The least number that a word does not hold beside a sign. -/
def signedBound : Nat := 9223372036854775808

def add (a b : Nat) : Except Panic Nat :=
  if a + b < bound then .ok (a + b) else .error .overflow

theorem add_of_lt {a b : Nat} (h : a + b < bound) : add a b = .ok (a + b) := if_pos h

theorem add_of_le {a b : Nat} (h : bound ≤ a + b) : add a b = .error .overflow :=
  if_neg (Nat.not_lt.mpr h)

end Word

end AbapNaming
