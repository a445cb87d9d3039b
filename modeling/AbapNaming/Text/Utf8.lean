/-! # Lengths in bytes -/

namespace AbapNaming.Text

def utf8Length : List Char → Nat
  | [] => 0
  | c :: cs => c.utf8Size + utf8Length cs

theorem utf8Length_append (xs ys : List Char) :
    utf8Length (xs ++ ys) = utf8Length xs + utf8Length ys := by
  induction xs with
  | nil => rw [List.nil_append, utf8Length, Nat.zero_add]
  | cons x xs ih => rw [List.cons_append, utf8Length, utf8Length, ih, Nat.add_assoc]

end AbapNaming.Text
