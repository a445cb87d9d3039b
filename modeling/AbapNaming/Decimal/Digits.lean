/-! # Decimal digits -/

namespace AbapNaming.Decimal

def value (digits : List Char) : Nat := digits.foldl (fun n c => 10 * n + (c.toNat - 48)) 0

/-- The digits of a number, behind as many zeros as the width needs. -/
def padded (width n : Nat) : List Char :=
  let digits := Nat.toDigits 10 n
  List.replicate (width - digits.length) '0' ++ digits

end AbapNaming.Decimal
