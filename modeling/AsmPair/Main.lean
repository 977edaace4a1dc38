import AsmPair.Cli.Run

/-!
# The program

Runs a command line on the real disk.
-/

namespace AsmPair

/-- The failure behind an error of the operating system.  That a file is needed and there is a
directory is found out before anything is read or written. -/
def FileFailure.ofError : IO.Error → FileFailure
  | .noFileOrDirectory .. | .noSuchThing .. => .notFound
  | .alreadyExists .. => .alreadyExists
  | .inappropriateType .. => .notADirectory
  -- an error code may come with its sign turned
  | e@(.invalidArgument _ code _) =>
    if code = 36 ∨ code + 36 = 0 then .nameTooLong else .other (toString e)
  | .permissionDenied .. => .other "Permission denied (os error 13)"
  | e => .other (toString e)

/-- Run an action and catch its errors. -/
def attempt {α : Type} (action : IO α) : IO (Except FileFailure α) := do
  try return .ok (← action) catch e => return .error (.ofError e)

/-- The real disk. -/
def realDisk : Disk IO where
  read path := do
    let place := (← IO.currentDir) / path
    if ← place.isDir then return .error .isADirectory
    match ← attempt (IO.FS.readBinFile place) with
    | .error e => return .error e
    | .ok bytes =>
      match String.fromUTF8? bytes with
      | some text => return .ok text
      | none => return .error .notText
  names path := do
    let place := (← IO.currentDir) / path
    attempt do return (← place.readDir).toList.map (·.fileName)
  holds path := do ((← IO.currentDir) / path).pathExists
  makeFolder path := do
    let place := (← IO.currentDir) / path
    if ← place.isDir then return .ok ()
    match ← attempt (IO.FS.createDirAll place) with
    | .error .alreadyExists =>
      -- the file in the way lies above the directory unless it has the directory's own path
      return .error (if ← place.pathExists then .alreadyExists else .notADirectory)
    | result => return result
  write path text := do
    let place := (← IO.currentDir) / path
    if ← place.isDir then return .error .isADirectory
    attempt (IO.FS.writeFile place text)

end AsmPair

/-- Run the command line of the process. -/
def main (args : List String) : IO UInt32 := do
  let outcome ← AsmPair.Cli.run AsmPair.realDisk args
  (← IO.getStderr).putStr outcome.stderr
  (← IO.getStdout).putStr outcome.stdout
  return outcome.exit.toUInt32
