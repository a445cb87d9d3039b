import AbapNaming.Command.Basic
import AbapNaming.Load
import AbapNaming.Report

/-! # Carrying out commands

A command reads its configuration first and then its descriptor. Results go to the standard
output, and what is said about them goes to the standard error. A file is written before anything
is shown.
-/

namespace AbapNaming

/-- What a command leaves behind: its exit code, its two outputs, and a file with its text. -/
structure Outcome where
  exit : Nat := 0
  stdout : String := ""
  stderr : String := ""
  file : Option (String × String) := none
deriving DecidableEq, Repr

def line (s : String) : String := s ++ "\n"

namespace ReportLine

def toStdout : ReportLine → String
  | .preformatted text => line text
  | _ => ""

def toStderr : ReportLine → String
  | .keyValue key value => line (key ++ ": " ++ value)
  | .error message => line ("error: " ++ message)
  | .warning message => line ("warning: " ++ message)
  | .blank => line ""
  | .preformatted _ => ""

end ReportLine

namespace Outcome

def ofLines (exit : Nat) (lines : List ReportLine) : Outcome where
  exit := exit
  stdout := String.join (lines.map ReportLine.toStdout)
  stderr := String.join (lines.map ReportLine.toStderr)

def failed (message : String) : Outcome := { exit := 1, stderr := line message }

/-- A panic has an exit code of its own. -/
def ofLoadError (e : LoadError) : Outcome :=
  match e.code? with
  | some code => failed (code ++ ": " ++ e.message)
  | none => { exit := 101, stderr := line e.message }

def ofStop : Command.Stop → Outcome
  | .usage => { exit := 2, stderr := line "error: unexpected arguments" }
  | .help => {}
  | .version => { stdout := line "abapgen 0.3.0" }

end Outcome

namespace Command

def runName (disk : Disk) (text : String) (style : NameStyle) (config : Option String) :
    Except LoadError String :=
  match style with
  | .snake => .ok (Snake.ofName text)
  | .interface => do
    let c ← disk.config config
    return c.naming.start.interfaceName text
  | .edited tag => do
    let c ← disk.config config
    return (c.naming.start.edit text tag).1.value

def runMangle (disk : Disk) (path : String) (config output : Option String) :
    Except LoadError Outcome := do
  let c ← disk.config config
  let d ← disk.descriptor path
  match AbapNaming.mangle d c output with
  | .error failure => return .failed ("Error: " ++ failure.fullMessage)
  | .ok report =>
    let shown := Outcome.ofLines 0 report.lines
    match output with
    | none => return shown
    | some file =>
      if disk.accepts file then return { shown with file := some (file, report.json) }
      else return .failed ("Error: Failed to write " ++ file)

def runCheck (disk : Disk) (path : String) (config : Option String) :
    Except LoadError Outcome := do
  let c ← disk.config config
  let d ← disk.descriptor path
  let report := AbapNaming.check d c path
  return .ofLines (if report.isValid then 0 else 1) report.lines

def run (disk : Disk) : Command → Outcome
  | .name text style config =>
    match runName disk text style config with
    | .ok identifier => { stdout := line identifier }
    | .error e => .ofLoadError e
  | .mangle path config output =>
    match runMangle disk path config output with
    | .ok outcome => outcome
    | .error e => .ofLoadError e
  | .check path config =>
    match runCheck disk path config with
    | .ok outcome => outcome
    | .error e => .ofLoadError e
  | .completions _ => {}

def runArguments (disk : Disk) (args : List String) : Outcome :=
  match ofArguments args with
  | .ok command => command.run disk
  | .error stop => .ofStop stop

def inputs : Command → List String
  | .name _ .snake _ => []
  | .name _ _ config => [config.getD configFile]
  | .mangle path config _ => [config.getD configFile, path]
  | .check path config => [config.getD configFile, path]
  | .completions _ => []

end Command

end AbapNaming
