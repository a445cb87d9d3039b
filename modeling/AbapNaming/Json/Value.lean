import AbapNaming.Json.Number
import AbapNaming.KeyedList
import AbapNaming.Text.Quoted

/-! # JSON values and their text

Values are written over several lines, two spaces deeper for each level. Empty containers stay
on one line. In a text only quotes, backslashes and control characters are escaped.
-/

namespace AbapNaming.Json

/-- The members of an object are written in the order in which they stand. -/
inductive Value
  | null
  | bool (b : Bool)
  | number (n : Number)
  | text (s : String)
  | array (items : List Value)
  | object (members : List (String × Value))
deriving Repr

namespace Value

def text? : Value → Option String
  | .text s => some s
  | _ => none

mutual

/-- Are these the same values? For lists of values inside of values no equality is derived. -/
def same : Value → Value → Bool
  | .null, .null => true
  | .bool b, .bool b' => b == b'
  | .number n, .number n' => n == n'
  | .text s, .text s' => s == s'
  | .array items, .array items' => sameItems items items'
  | .object members, .object members' => sameMembers members members'
  | _, _ => false

def sameItems : List Value → List Value → Bool
  | [], [] => true
  | v :: vs, w :: ws => same v w && sameItems vs ws
  | _, _ => false

def sameMembers : List (String × Value) → List (String × Value) → Bool
  | [], [] => true
  | (k, v) :: ms, (l, w) :: ns => k == l && same v w && sameMembers ms ns
  | _, _ => false

end

mutual

theorem same_iff (v w : Value) : same v w = true ↔ v = w := by
  cases v <;> cases w <;> simp [same, sameItems_iff, sameMembers_iff]

theorem sameItems_iff (vs ws : List Value) : sameItems vs ws = true ↔ vs = ws := by
  cases vs <;> cases ws <;> simp [sameItems, same_iff, sameItems_iff]

theorem sameMembers_iff (ms ns : List (String × Value)) :
    sameMembers ms ns = true ↔ ms = ns := by
  rcases ms with _ | ⟨⟨k, v⟩, ms⟩ <;> rcases ns with _ | ⟨⟨l, w⟩, ns⟩ <;>
    simp [sameMembers, same_iff, sameMembers_iff, and_assoc]

end

instance : DecidableEq Value := fun v w => decidable_of_iff _ (same_iff v w)

def escapeChar (c : Char) : List Char :=
  match c with
  | '"' => ['\\', '"']
  | '\\' => ['\\', '\\']
  | '\n' => ['\\', 'n']
  | '\r' => ['\\', 'r']
  | '\t' => ['\\', 't']
  | c =>
    if c.toNat = 8 then ['\\', 'b']
    else if c.toNat = 12 then ['\\', 'f']
    else if c.toNat < 32 then
      '\\' :: 'u' :: '0' :: '0' :: (if c.toNat < 16 then ['0'] else []) ++ Text.hex c.toNat
    else [c]

def textChars (s : String) : List Char := '"' :: s.toList.flatMap escapeChar ++ ['"']

def newline (depth : Nat) : List Char := '\n' :: List.replicate (2 * depth) ' '

mutual

/-- The text of a value whose line stands at this depth. -/
def chars (depth : Nat) : Value → List Char
  | .null => ['n', 'u', 'l', 'l']
  | .bool true => ['t', 'r', 'u', 'e']
  | .bool false => ['f', 'a', 'l', 's', 'e']
  | .number n => n.text
  | .text s => textChars s
  | .array [] => ['[', ']']
  | .array (v :: vs) =>
    '[' :: newline (depth + 1) ++ chars (depth + 1) v ++ itemChars (depth + 1) vs ++
      newline depth ++ [']']
  | .object [] => ['{', '}']
  | .object ((k, v) :: ms) =>
    '{' :: newline (depth + 1) ++ textChars k ++ [':', ' '] ++ chars (depth + 1) v ++
      memberChars (depth + 1) ms ++ newline depth ++ ['}']

def itemChars (depth : Nat) : List Value → List Char
  | [] => []
  | v :: vs => ',' :: newline depth ++ chars depth v ++ itemChars depth vs

def memberChars (depth : Nat) : List (String × Value) → List Char
  | [] => []
  | (k, v) :: ms =>
    ',' :: newline depth ++ textChars k ++ [':', ' '] ++ chars depth v ++ memberChars depth ms

end

def render (v : Value) : String := String.ofList (chars 0 v)

end Value

/-- Puts a member into a list that is sorted by key; an older one with the key is replaced. -/
def insertSorted {α : Type} (k : String) (v : α) : KeyedList α → KeyedList α
  | [] => [(k, v)]
  | (k', v') :: rest =>
    if k < k' then (k, v) :: (k', v') :: rest
    else if k = k' then (k, v) :: rest
    else (k', v') :: insertSorted k v rest

end AbapNaming.Json
