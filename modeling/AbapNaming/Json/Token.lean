import AbapNaming.Json.Tree
import AbapNaming.Text.Utf8

/-! # Words, texts and numbers of JSON

Each reader takes the characters behind the first one and gives back what it read with the rest
of the text, or the defect that it met.
-/

namespace AbapNaming.Json

inductive Scanned (α : Type)
  | done (value : α) (rest : List Char)
  | failed (defect : Defect)
deriving Repr

namespace Scanned

def map {α β : Type} (f : α → β) : Scanned α → Scanned β
  | .done a rest => .done (f a) rest
  | .failed d => .failed d

def withoutValue : Scanned (Option (List Char)) → Scanned (Option (List Char))
  | .done _ rest => .done none rest
  | .failed d => .failed d.afterLoneSurrogate

end Scanned

def isSpace (c : Char) : Bool := c == ' ' || c == '\n' || c == '\t' || c == '\r'

def skipSpace (cs : List Char) : List Char := cs.dropWhile isSpace

def scanWord : (word cs : List Char) → Scanned Unit
  | [], cs => .done () cs
  | _ :: _, [] => .failed .truncated
  | w :: ws, c :: cs => if c = w then scanWord ws cs else .failed .malformed

def hexDigit? (c : Char) : Option Nat :=
  if c.isDigit then some (c.toNat - 48)
  else if 'a' ≤ c ∧ c ≤ 'f' then some (c.toNat - 87)
  else if 'A' ≤ c ∧ c ≤ 'F' then some (c.toNat - 55)
  else none

/-- The number that four hexadecimal digits spell. With fewer than four bytes left the text is
too short, whatever they are. -/
def hexUnit (cs : List Char) : Except Flaw Nat :=
  if Text.utf8Length (cs.take 4) < 4 then .error .truncated
  else match (cs.take 4).mapM hexDigit? with
    | some digits => .ok (digits.foldl (fun n d => 16 * n + d) 0)
    | none => .error .malformed

def isHighSurrogate (n : Nat) : Bool := 0xD800 ≤ n && n ≤ 0xDBFF

def isLowSurrogate (n : Nat) : Bool := 0xDC00 ≤ n && n ≤ 0xDFFF

/-- What a backslash begins: a character or an escape without one, with the number of characters
that the escape takes behind the backslash, or a flaw. -/
inductive Escape
  | char (c : Char) (length : Nat)
  | lone (length : Nat)
  | broken (flaw : Flaw)
deriving DecidableEq, Repr

/-- The half of a surrogate pair has been read; the other half has to follow as an escape. -/
def pairEscape (high : Nat) : List Char → Escape
  | [] => .broken .truncated
  | ['\\'] => .broken .truncated
  | '\\' :: 'u' :: cs =>
    match hexUnit cs with
    | .error .truncated => .broken .truncated
    | .error .malformed => .lone 5
    | .ok low =>
      if isLowSurrogate low then
        .char (Char.ofNat (0x10000 + (high - 0xD800) * 0x400 + (low - 0xDC00))) 11
      else .lone 5
  | _ => .lone 5

def scanEscape : List Char → Escape
  | [] => .broken .truncated
  | c :: cs =>
    match c with
    | '"' => .char '"' 1
    | '\\' => .char '\\' 1
    | '/' => .char '/' 1
    | 'b' => .char (Char.ofNat 8) 1
    | 'f' => .char (Char.ofNat 12) 1
    | 'n' => .char '\n' 1
    | 'r' => .char '\r' 1
    | 't' => .char '\t' 1
    | 'u' =>
      match hexUnit cs with
      | .error flaw => .broken flaw
      | .ok n =>
        if isHighSurrogate n then pairEscape n (cs.drop 4)
        else if isLowSurrogate n then .lone 5
        else .char (Char.ofNat n) 5
    | _ => .broken .malformed

/-- Reads a text up to its closing quote; `skip` characters still belong to an escape. -/
def scanText : (skip : Nat) → List Char → Scanned (Option (List Char))
  | _, [] => .failed .truncated
  | skip + 1, _ :: cs => scanText skip cs
  | 0, c :: cs =>
    if c = '"' then .done (some []) cs
    else if c = '\\' then
      match scanEscape cs with
      | .char e length => (scanText length cs).map (Option.map (e :: ·))
      | .lone length => (scanText length cs).withoutValue
      | .broken flaw => .failed ⟨flaw, flaw⟩
    else if c.toNat < 32 then .failed .malformed
    else (scanText 0 cs).map (Option.map (c :: ·))

def scanDigits (cs : List Char) : Scanned (List Char) :=
  match cs.takeWhile Char.isDigit, cs.dropWhile Char.isDigit with
  | [], [] => .failed .cutNumber
  | [], _ :: _ => .failed .malformed
  | digits, rest => .done digits rest

/-- Digits in front, with no zero before others. -/
def scanWhole (cs : List Char) : Scanned (List Char) :=
  match scanDigits cs with
  | .done ('0' :: _ :: _) _ => .failed .malformed
  | s => s

def scanFraction : List Char → Scanned (List Char)
  | '.' :: cs => scanDigits cs
  | cs => .done [] cs

def scanExponent : List Char → Scanned (Option (Bool × List Char))
  | c :: cs =>
    if c = 'e' ∨ c = 'E' then
      match cs with
      | '-' :: cs => (scanDigits cs).map fun ds => some (true, ds)
      | '+' :: cs => (scanDigits cs).map fun ds => some (false, ds)
      | cs => (scanDigits cs).map fun ds => some (false, ds)
    else .done none (c :: cs)
  | [] => .done none []

def scanNumeral (negative : Bool) (cs : List Char) : Scanned Numeral :=
  match scanWhole cs with
  | .failed d => .failed d
  | .done whole cs =>
    match scanFraction cs with
    | .failed d => .failed d
    | .done fraction cs => (scanExponent cs).map fun e => ⟨negative, whole, fraction, e⟩

end AbapNaming.Json
