import AbapNaming.KeyedList

/-! # Command line arguments

Arguments are options with a long name behind two dashes, options with a short name behind one,
and everything else. Short names may be joined, and a value may follow its option directly. What
starts with a dash is no value, unless two dashes by themselves have come before. Arguments are
looked at one after the other, and each value where it stands, so the first fault or the first
option that ends the reading decides.
-/

namespace AbapNaming.Command

inductive Stop
  /-- The arguments make no command. -/
  | usage
  | help
  | version
deriving DecidableEq, Repr

inductive ValueKind
  | text
  /-- A path is not empty. -/
  | path
  | oneOf (choices : List String)
deriving DecidableEq, Repr

def ValueKind.accepts : ValueKind → String → Bool
  | .text, _ => true
  | .path, value => !value.isEmpty
  | .oneOf choices, value => decide (value ∈ choices)

inductive OptionKind
  | flag
  | value (kind : ValueKind)
  /-- An option that ends the reading of the arguments. -/
  | stop (s : Stop)
deriving DecidableEq, Repr

structure OptionSpec where
  short : Option Char
  long : String
  kind : OptionKind
deriving DecidableEq, Repr

structure Grammar where
  options : List OptionSpec
  /-- The kinds of the plain arguments, in their order. -/
  plain : List ValueKind
deriving DecidableEq, Repr

/-- What was given so far; options are known by their long names. -/
structure Arguments where
  flags : List String := []
  values : KeyedList String := []
  /-- An option that still waits for its value. -/
  pending : Option (String × ValueKind) := none
  positionals : List String := []
deriving DecidableEq, Repr

inductive Look
  | terminator
  | long (name : String) (value : Option String)
  | short (letters : List Char)
  | plain
deriving DecidableEq, Repr

def Look.ofArgument (arg : String) : Look :=
  match arg.toList with
  | ['-', '-'] => .terminator
  | '-' :: '-' :: cs =>
    let name := String.ofList (cs.takeWhile (· != '='))
    match cs.dropWhile (· != '=') with
    | [] => .long name none
    | _ :: value => .long name (some (String.ofList value))
  | '-' :: c :: cs => .short (c :: cs)
  | _ => .plain

namespace Arguments

def isGiven (a : Arguments) (name : String) : Bool :=
  decide (name ∈ a.flags) || decide (name ∈ a.values.keys)

def addFlag (a : Arguments) (name : String) : Except Stop Arguments :=
  if a.isGiven name then .error .usage else .ok { a with flags := a.flags ++ [name] }

def addValue (a : Arguments) (name : String) (kind : ValueKind) (value : String) :
    Except Stop Arguments :=
  if a.isGiven name || !kind.accepts value then .error .usage
  else .ok { a with values := a.values ++ [(name, value)], pending := none }

/-- Takes a plain argument, if there may be one more. -/
def addPositional (g : Grammar) (a : Arguments) (arg : String) : Except Stop Arguments :=
  match g.plain[a.positionals.length]? with
  | none => .error .usage
  | some kind =>
    if kind.accepts arg then .ok { a with positionals := a.positionals ++ [arg] }
    else .error .usage

def addLong (g : Grammar) (a : Arguments) (name : String) (value : Option String) :
    Except Stop Arguments :=
  match g.options.find? (·.long == name), value with
  | none, _ => .error .usage
  | some ⟨_, _, .value kind⟩, some v => a.addValue name kind v
  | some ⟨_, _, .value kind⟩, none => .ok { a with pending := some (name, kind) }
  | some ⟨_, _, .flag⟩, none => a.addFlag name
  | some ⟨_, _, .stop s⟩, none => .error s
  | some _, some _ => .error .usage

/-- Takes joined short options. What follows the letter of an option with a value is its value,
and an equals sign between them does not count. -/
def addShort (g : Grammar) (a : Arguments) : List Char → Except Stop Arguments
  | [] => .ok a
  | c :: cs =>
    match g.options.find? (·.short == some c) with
    | none => .error .usage
    | some ⟨_, _, .stop s⟩ => .error s
    | some ⟨_, name, .flag⟩ => do addShort g (← a.addFlag name) cs
    | some ⟨_, name, .value kind⟩ =>
      match cs with
      | [] => .ok { a with pending := some (name, kind) }
      | '=' :: value => a.addValue name kind (String.ofList value)
      | value => a.addValue name kind (String.ofList value)

def read (g : Grammar) (a : Arguments) : List String → Except Stop Arguments
  | [] => if a.pending.isSome then .error .usage else .ok a
  | arg :: rest =>
    match Look.ofArgument arg, a.pending with
    | .plain, some (name, kind) => do read g (← a.addValue name kind arg) rest
    | .plain, none => do read g (← a.addPositional g arg) rest
    | _, some _ => .error .usage
    | .terminator, none => rest.foldlM (addPositional g) a
    | .long name value, none => do read g (← a.addLong g name value) rest
    | .short letters, none => do read g (← a.addShort g letters) rest

/-- Reads options up to the first plain argument, which names a subcommand. -/
def readFront (g : Grammar) (a : Arguments) :
    List String → Except Stop (String × List String)
  | [] => .error .usage
  | arg :: rest =>
    match Look.ofArgument arg with
    | .plain => .ok (arg, rest)
    | .terminator => .error .usage
    | .long name value => do readFront g (← a.addLong g name value) rest
    | .short letters => do readFront g (← a.addShort g letters) rest

end Arguments

end AbapNaming.Command
