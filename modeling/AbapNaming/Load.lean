import AbapNaming.Config.Format
import AbapNaming.Descriptor.Format

/-! # Loading descriptors and configurations

What is read may be no file, no UTF-8 or no text of its format. An error has a message, a code
and perhaps a hint; a panic has the message alone.
-/

namespace AbapNaming

inductive LoadError
  | unreadable (path : String)
  | config (error : ConfigError)
  | descriptor (error : Json.ReadError)
deriving DecidableEq, Repr

namespace LoadError

def message : LoadError → String
  | .unreadable path => "failed to read '" ++ path ++ "'"
  | .config .unparsable => "failed to parse " ++ configFile
  | .config (.invalid problem _) => problem.message
  | .config (.panic cause) => cause.message
  | .descriptor _ => "failed to parse descriptor"

def code? : LoadError → Option String
  | .unreadable _ => some "abapgen::io"
  | .config .unparsable => some "abapgen::parse_error"
  | .config (.invalid _ _) => some "abapgen::validation_error"
  | .config (.panic _) => none
  | .descriptor _ => some "abapgen::descriptor_error"

def help? : LoadError → Option String
  | .unreadable _ => some "check that the file exists and is readable"
  | .config _ => none
  | .descriptor _ =>
    some "the descriptor must be the JSON tree exported by the schema parser"

end LoadError

def loadConfig (text : String) : Except LoadError Config := (Config.ofToml text).mapError .config

def loadDescriptor (text : String) : Except LoadError Descriptor :=
  (Descriptor.ofJson text).mapError .descriptor

inductive FileState
  | absent
  /-- Something is there, but no file that can be read. -/
  | unreadable
  | holds (bytes : ByteArray)

/-- The files that a command sees: what stands at a path, and whether a file may be put there. -/
structure Disk where
  look : String → FileState
  accepts : String → Bool

namespace Disk

def text (disk : Disk) (path : String) : Except LoadError String :=
  match disk.look path with
  | .holds bytes =>
    match String.fromUTF8? bytes with
    | some text => .ok text
    | none => .error (.unreadable path)
  | _ => .error (.unreadable path)

/-- The configuration at a path, or the one in the working directory if it has one. -/
def config (disk : Disk) : Option String → Except LoadError Config
  | some path => (disk.text path).bind loadConfig
  | none =>
    match disk.look configFile with
    | .absent => .ok {}
    | _ => (disk.text configFile).bind loadConfig

def descriptor (disk : Disk) (path : String) : Except LoadError Descriptor :=
  (disk.text path).bind loadDescriptor

end Disk

end AbapNaming
