import MediaHash.Command.Run

/-!
# The program

Reads the files that the arguments name, follows the command line, and
writes what the run ends with.
-/

namespace MediaHash

/-- What stands at a path of the file system. -/
def readEntry (path : String) : IO (Except AccessFault Entry) := do
  try
    let content ← IO.FS.readBinFile path
    return .ok (.file content.toList)
  catch failure =>
    match failure with
    | .noFileOrDirectory .. => return .error .missing
    | .inappropriateType _ 21 _ => return .ok .directory
    | .inappropriateType .. => return .error .notADirectory
    | .permissionDenied .. =>
        return .ok (.unreadable
          ⟨.permissionDenied, "Permission denied (os error 13)"⟩)
    | other => return .error ⟨.other, toString other⟩

/-- The directory that holds the directories of configurations. -/
def findConfigHome : IO String := do
  match ← IO.getEnv "XDG_CONFIG_HOME" with
  | some home =>
      if home.startsWith "/" then return home
      else return ((← IO.getEnv "HOME").getD "") ++ "/.config"
  | none => return ((← IO.getEnv "HOME").getD "") ++ "/.config"

/-- The values of the variables that a run looks at. -/
def readEnvironment : IO (String → Option String) := do
  let output ← IO.getEnv Config.outputVariable
  let color ← IO.getEnv Config.colorVariable
  let strict ← IO.getEnv Config.strictVariable
  return fun name =>
    if name = Config.outputVariable then output
    else if name = Config.colorVariable then color
    else if name = Config.strictVariable then strict
    else none

end MediaHash

open MediaHash in
/-- Follow the command line. -/
def main (arguments : List String) : IO UInt32 := do
  let configHome ← findConfigHome
  let environment ← readEnvironment
  let table ← (Command.reachablePaths configHome arguments).mapM
    fun path => do return (path, ← readEntry path)
  let files : Files := fun path =>
    (table.lookup path).getD (.error .missing)
  let outcome := Command.run ⟨files, environment, configHome⟩ arguments
  (← IO.getStdout).putStr outcome.output
  match outcome.failure with
  | some failure => IO.eprintln failure.line
  | none => pure ()
  return outcome.exitStatus.toNat.toUInt32
