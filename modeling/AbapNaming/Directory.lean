import AbapNaming.Command.Run

/-! # Directories held in memory

A working directory is given by the files below it. Paths are followed one part at a time; all
parts but the last have to be directories. Of what is outside only the devices and some directories
and links are known. The working directory stands in the one for temporary files, where other files
can be put too, but are not kept.
-/

namespace AbapNaming

/-- Files by their path from the directory, parts joined by slashes. -/
abbrev Directory := KeyedList ByteArray

namespace Directory

def parts : List Char → List (List Char)
  | [] => [[]]
  | c :: cs =>
    if c = '/' then [] :: parts cs
    else match parts cs with
      | [] => [[c]]
      | p :: ps => (c :: p) :: ps

def maxNameLength : Nat := 255

def maxPathLength : Nat := 4095

/-- Where a path has led to so far. -/
inductive Spot
  /-- Names that lead down from the working directory. -/
  | inside (names : List String)
  /-- Names that lead down from the root. -/
  | outside (names : List String)
deriving DecidableEq, Repr

/-- Files that are no storage. -/
inductive Device
  /-- Is empty and takes any text. -/
  | empty
  /-- Never ends and takes any text. -/
  | endless
  | standardOutput
  | standardError
deriving DecidableEq, Repr

inductive Place
  | file (path : String) (bytes : ByteArray)
  | directory
  | device (d : Device)
  /-- Nothing is there, but a file could be put there. -/
  | free (path : String)
  /-- Nothing is known to be there, but a file could be put there. -/
  | outside
  | unreachable

/-! ## Outside of the working directory -/

/-- The directory for temporary files, in which the working directory stands. -/
def temporary : List String := ["tmp"]

/-- The directory of what the running program has opened, by number. -/
def opened : List String := ["proc", "self", "fd"]

def rootDirectories : List String :=
  ["boot", "dev", "etc", "home", "media", "mnt", "opt", "proc", "root", "run", "srv", "sys", "tmp",
    "usr", "var"]

/-- The directories that are known, by the names that lead to them from the root. -/
def outsideDirectories : List (List String) :=
  [] :: rootDirectories.map (fun name => [name]) ++
    [["dev", "pts"], ["dev", "shm"], ["proc", "self"], opened, ["usr", "bin"], ["usr", "lib"],
      ["usr", "sbin"]]

def links : List (List String × Spot) :=
  [(["bin"], .outside ["usr", "bin"]),
    (["lib"], .outside ["usr", "lib"]),
    (["sbin"], .outside ["usr", "sbin"]),
    (["proc", "thread-self"], .outside ["proc", "self"]),
    (["proc", "self", "cwd"], .inside []),
    (["proc", "self", "root"], .outside []),
    (["dev", "fd"], .outside opened),
    (["dev", "stdin"], .outside (opened ++ ["0"])),
    (["dev", "stdout"], .outside (opened ++ ["1"])),
    (["dev", "stderr"], .outside (opened ++ ["2"]))]

/-- The devices. Nothing comes in at the standard input. -/
def devices : List (List String × Device) :=
  [(opened ++ ["0"], .empty),
    (opened ++ ["1"], .standardOutput),
    (opened ++ ["2"], .standardError),
    (["dev", "null"], .empty),
    (["dev", "zero"], .endless),
    (["dev", "random"], .endless),
    (["dev", "urandom"], .endless)]

def outsidePlace (names : List String) : Place :=
  match devices.lookup names with
  | some device => .device device
  | none => if names.dropLast = temporary then .outside else .unreachable

/-! ## Following a path -/

def joined (names : List String) : String := String.intercalate "/" names

namespace Spot

/-- The directory around this one; the root is its own. -/
def parent : Spot → Spot
  | .inside [] => .outside temporary
  | .inside names => .inside names.dropLast
  | .outside names => .outside names.dropLast

def child (spot : Spot) (name : String) : Spot :=
  match spot with
  | .inside names => .inside (names ++ [name])
  | .outside names => (links.lookup (names ++ [name])).getD (.outside (names ++ [name]))

def isDirectory (d : Directory) : Spot → Bool
  | .inside names =>
    names.isEmpty || d.any fun f => (joined names ++ "/").toList.isPrefixOf f.1.toList
  | .outside names => decide (names ∈ outsideDirectories)

def place (d : Directory) : Spot → Place
  | .inside names =>
    match KeyedList.get? d (joined names) with
    | some bytes => .file (joined names) bytes
    | none => .free (joined names)
  | .outside names => outsidePlace names

end Spot

def follow (d : Directory) (here : Spot) : List (List Char) → Place
  | [] => .directory
  | part :: rest =>
    if part = [] ∨ part = ['.'] then follow d here rest
    else if part = ['.', '.'] then follow d here.parent rest
    else
      let name := String.ofList part
      if maxNameLength < name.utf8ByteSize then .unreachable
      else if (here.child name).isDirectory d then follow d (here.child name) rest
      else if rest ≠ [] then .unreachable
      else (here.child name).place d

def place (d : Directory) (path : String) : Place :=
  if maxPathLength < path.utf8ByteSize then .unreachable
  else match path.toList with
    | [] => .unreachable
    | '/' :: cs => follow d (.outside []) (parts cs)
    | cs => follow d (.inside []) (parts cs)

/-! ## Reading and writing -/

def look (d : Directory) (path : String) : FileState :=
  match d.place path with
  | .file _ bytes => .holds bytes
  | .device .empty => .holds .empty
  | .device _ => .unreadable
  | .directory => .unreadable
  | .free _ => .absent
  | .outside => .absent
  | .unreachable => .absent

def accepts (d : Directory) (path : String) : Bool :=
  match d.place path with
  | .file _ _ => true
  | .device _ => true
  | .free _ => true
  | .outside => true
  | .directory => false
  | .unreachable => false

def disk (d : Directory) : Disk := ⟨d.look, d.accepts⟩

/-- Puts the file of an outcome to its place. What is written to an output stands before all that
is shown there. -/
def deliver (d : Directory) (o : Outcome) : Directory × Outcome :=
  match o.file with
  | none => (d, o)
  | some (path, text) =>
    match d.place path with
    | .file name _ => (d.insert name text.toUTF8, o)
    | .free name => (d.insert name text.toUTF8, o)
    | .device .standardOutput => (d, { o with stdout := text ++ o.stdout })
    | .device .standardError => (d, { o with stderr := text ++ o.stderr })
    | _ => (d, o)

/-- Carries out the command that the arguments make, in this directory. -/
def runArguments (d : Directory) (args : List String) : Directory × Outcome :=
  d.deliver (Command.runArguments d.disk args)

end Directory

end AbapNaming
