import AbapNaming.Command.Arguments

/-! # Commands

A command names one text, names everything in a descriptor, or checks one. Some options do not go
together, and a path is never empty.
-/

namespace AbapNaming

inductive NameStyle
  /-- It is edited behind this tag. -/
  | edited (tag : String)
  /-- It names the interface. -/
  | interface
  /-- It is only brought to snake case. -/
  | snake
deriving DecidableEq, Repr

inductive Command
  | name (text : String) (style : NameStyle) (config : Option String)
  | mangle (descriptor : String) (config output : Option String)
  | check (descriptor : String) (config : Option String)
  | completions (shell : String)
deriving DecidableEq, Repr

namespace Command

def verbose : OptionSpec := ⟨some 'v', "verbose", .flag⟩

def help : OptionSpec := ⟨some 'h', "help", .stop .help⟩

def version : OptionSpec := ⟨some 'V', "version", .stop .version⟩

def config : OptionSpec := ⟨some 'c', "config", .value .path⟩

def output : OptionSpec := ⟨some 'o', "output", .value .path⟩

def tag : OptionSpec := ⟨some 'p', "prefix", .value .text⟩

def interface : OptionSpec := ⟨some 'g', "global", .flag⟩

def snake : OptionSpec := ⟨none, "snake", .flag⟩

def value? (a : Arguments) (o : OptionSpec) : Option String := a.values.get? o.long

/-- The only plain argument. -/
def only (a : Arguments) : Except Stop String :=
  match a.positionals with
  | [arg] => .ok arg
  | _ => .error .usage

/-- At most one of the options that choose a style is given. -/
def style (a : Arguments) : Except Stop NameStyle :=
  match value? a tag, a.isGiven interface.long, a.isGiven snake.long with
  | some tag, false, false => .ok (.edited tag)
  | none, true, false => .ok .interface
  | none, false, true => .ok .snake
  | none, false, false => .ok (.edited "")
  | _, _, _ => .error .usage

def shells : List String := ["bash", "elvish", "fish", "powershell", "zsh"]

def subcommands : List String := ["mangle", "check", "name", "completions", "help"]

def ofSubcommand (subcommand : String) (args : List String) : Except Stop Command :=
  let read (options : List OptionSpec) (plain : ValueKind) : Except Stop Arguments :=
    Arguments.read ⟨options ++ [verbose, help], [plain]⟩ {} args
  if subcommand = "name" then do
    let a ← read [tag, interface, snake, config] .text
    return .name (← only a) (← style a) (value? a config)
  else if subcommand = "mangle" then do
    let a ← read [config, output] .path
    return .mangle (← only a) (value? a config) (value? a output)
  else if subcommand = "check" then do
    let a ← read [config] .path
    return .check (← only a) (value? a config)
  else if subcommand = "completions" then do
    let a ← read [] (.oneOf shells)
    return .completions (← only a)
  else if subcommand = "help" ∧ (args = [] ∨ ∃ s ∈ subcommands, args = [s]) then .error .help
  else .error .usage

def ofArguments (args : List String) : Except Stop Command := do
  let (subcommand, rest) ← Arguments.readFront ⟨[verbose, help, version], []⟩ {} args
  ofSubcommand subcommand rest

end Command

end AbapNaming
