import AbapNaming.Text.Hidden

/-! # Quoted text

A text shown to a reader stands between double quotes. Quotes and backslashes are escaped, the
common control characters have their letter, and any other hidden character is written by its
code point in hexadecimal.
-/

namespace AbapNaming.Text

def hex (n : Nat) : List Char := Nat.toDigits 16 n

def quoteChar (c : Char) : List Char :=
  match c with
  | '\t' => ['\\', 't']
  | '\r' => ['\\', 'r']
  | '\n' => ['\\', 'n']
  | '"' => ['\\', '"']
  | '\\' => ['\\', '\\']
  | c =>
    if c.toNat = 0 then ['\\', '0']
    else if isHidden c then ['\\', 'u', '{'] ++ hex c.toNat ++ ['}']
    else [c]

def quote (cs : List Char) : List Char := '"' :: cs.flatMap quoteChar ++ ['"']

end AbapNaming.Text
