import SqlSelect.CommandLine.Run
/-!
# The program

Reads the files that a run may look at, runs, and writes what the run answers.
-/

open SqlSelect.CommandLine

/-- What reading a path finds now. -/
def readNow (path : String) : IO Reading := do
  try
    return .text (← IO.FS.readFile path)
  catch
    | .noFileOrDirectory .. => return .missing
    | e => return .unreadable (toString e)

def main (args : List String) : IO UInt32 := do
  let home ← IO.getEnv "HOME"
  let userConfig := (← IO.getEnv "XDG_CONFIG_HOME") <|> home.map (· ++ "/.config")
  let config ← IO.getEnv configVariable
  let files ← (paths { read := fun _ => .missing, config, userConfig } args).mapM fun path => do
    return (path, ← readNow path)
  let read := fun path => (files.lookup path).getD .missing
  let outcome := run { read, config, userConfig } args
  IO.print outcome.stdout
  IO.eprint outcome.stderr
  return outcome.exit.toUInt32
