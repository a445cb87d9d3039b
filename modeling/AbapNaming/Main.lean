import AbapNaming.Command.Run

/-! # The program

Reads the files that a command needs, carries it out, writes its file and shows its outputs.
-/

namespace AbapNaming

def lookAt (path : String) : IO FileState := do
  match ← (IO.FS.readBinFile path).toBaseIO with
  | .ok bytes => return .holds bytes
  | .error (.noFileOrDirectory _ _ _) => return .absent
  | .error _ => return .unreadable

/-- A disk on which these paths have been looked at and every file can be written. -/
def seenDisk (seen : List (String × FileState)) : Disk :=
  ⟨fun path => (seen.lookup path).getD .absent, fun _ => true⟩

def carryOut (args : List String) : IO Outcome := do
  match Command.ofArguments args with
  | .error stop => return .ofStop stop
  | .ok command =>
    let seen ← command.inputs.mapM fun path => return (path, ← lookAt path)
    let outcome := command.run (seenDisk seen)
    match outcome.file with
    | none => return outcome
    | some (path, text) =>
      match ← (IO.FS.writeFile path text).toBaseIO with
      | .ok () => return outcome
      | .error _ => return .failed ("Error: Failed to write " ++ path)

end AbapNaming

def main (args : List String) : IO UInt32 := do
  let outcome ← AbapNaming.carryOut args
  (← IO.getStdout).putStr outcome.stdout
  (← IO.getStderr).putStr outcome.stderr
  return outcome.exit.toUInt32
