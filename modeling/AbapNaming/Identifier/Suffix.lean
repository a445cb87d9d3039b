import AbapNaming.Decimal.Digits

/-! # Numbered suffixes

Positions in a bucket and in the table of type codes are written with at least three digits.
-/

namespace AbapNaming

/-- The least width of a suffix. Positions past 999 take more digits. -/
def suffixWidth : Nat := 3

def suffixDigits (n : Nat) : List Char := Decimal.padded suffixWidth n

def suffix (n : Nat) : String := String.ofList (suffixDigits n)

end AbapNaming
