import AbapNaming.Json.Token

/-! # Reading JSON

The reader follows the nesting of the text. Its fuel is never used up: each container takes a
character of the text, and so does each item behind the first.
-/

namespace AbapNaming.Json

/-- Makes a node of what was read. Behind a defect there is no text. -/
def Scanned.node {α : Type} (make : α → Node) : Scanned α → Node × List Char
  | .done a rest => (make a, rest)
  | .failed d => (.broken d, [])

mutual

def readNode (fuel : Nat) (text : List Char) : Node × List Char :=
  match fuel with
  | 0 => (.broken .truncated, [])
  | fuel + 1 =>
    match skipSpace text with
    | [] => (.broken .truncated, [])
    | c :: cs =>
      match c with
      | 'n' => (scanWord ['u', 'l', 'l'] cs).node fun _ => .null
      | 't' => (scanWord ['r', 'u', 'e'] cs).node fun _ => .bool true
      | 'f' => (scanWord ['a', 'l', 's', 'e'] cs).node fun _ => .bool false
      | '"' => (scanText 0 cs).node fun s => .text (s.map String.ofList)
      | '-' => (scanNumeral true cs).node .number
      | '[' =>
        match skipSpace cs with
        | [] => (.array [] (some .truncated), [])
        | ']' :: rest => (.array [] none, rest)
        | first =>
          let (item, rest) := readNode fuel first
          let (items, defect, rest) := readItems fuel rest
          (.array (item :: items) defect, rest)
      | '{' =>
        match skipSpace cs with
        | [] => (.object [] (some .truncated), [])
        | '}' :: rest => (.object [] none, rest)
        | first =>
          let (members, defect, rest) := readMember fuel first
          (.object members defect, rest)
      | c =>
        if c.isDigit then (scanNumeral false (c :: cs)).node .number
        else (.broken .malformed, [])

def readItems (fuel : Nat) (text : List Char) : List Node × Option Defect × List Char :=
  match fuel with
  | 0 => ([], some .truncated, [])
  | fuel + 1 =>
    match skipSpace text with
    | [] => ([], some .truncated, [])
    | ']' :: rest => ([], none, rest)
    | ',' :: rest =>
      let (item, rest) := readNode fuel rest
      let (items, defect, rest) := readItems fuel rest
      (item :: items, defect, rest)
    | _ => ([], some .malformed, [])

def readMember (fuel : Nat) (text : List Char) :
    List (TextToken × Node) × Option Defect × List Char :=
  match fuel with
  | 0 => ([], some .truncated, [])
  | fuel + 1 =>
    match text with
    | [] => ([], some .truncated, [])
    | '"' :: cs =>
      match scanText 0 cs with
      | .failed d => ([], some d, [])
      | .done key rest =>
        let name : TextToken := key.map String.ofList
        match skipSpace rest with
        | [] => ([(name, .broken .truncated)], none, [])
        | ':' :: rest =>
          let (value, rest) := readNode fuel rest
          let (members, defect, rest) := readMembers fuel rest
          ((name, value) :: members, defect, rest)
        | _ => ([(name, .broken .malformed)], none, [])
    | _ => ([], some .malformed, [])

def readMembers (fuel : Nat) (text : List Char) :
    List (TextToken × Node) × Option Defect × List Char :=
  match fuel with
  | 0 => ([], some .truncated, [])
  | fuel + 1 =>
    match skipSpace text with
    | [] => ([], some .truncated, [])
    | '}' :: rest => ([], none, rest)
    | ',' :: rest => readMember fuel (skipSpace rest)
    | _ => ([], some .malformed, [])

end

def Document.ofText (text : List Char) : Document :=
  let (root, rest) := readNode (2 * text.length + 2) text
  ⟨root, !(skipSpace rest).isEmpty⟩

end AbapNaming.Json
