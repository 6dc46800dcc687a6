import ViewEngine.Cli.Program

/-!
The command line's entry point: reads what a run may need (standard input when an argument is
`-`, and each file an argument or the default settings file names), runs the command line, and
prints what it printed.
-/

namespace ViewEngine.Cli

/-- The paths a run may read: the default settings file, every argument, and every value given
after `=` in an argument. -/
def candidatePaths (args : List String) : List String :=
  let values := args.filterMap fun a =>
    match a.splitOn "=" with
    | _ :: rest@(_ :: _) => some ("=".intercalate rest)
    | _ => none
  ("rigor.yaml" :: args ++ values).eraseDups

/-- The contents of a file, if it can be read. -/
def readIfPresent (path : String) : IO (Option String) := do
  if path.isEmpty || path == "-" then return none
  try
    return some (← IO.FS.readFile path)
  catch _ =>
    return none

/-- Reads a stream to its end. -/
partial def readAll (stream : IO.FS.Stream) (acc : String) : IO String := do
  let line ← stream.getLine
  if line.isEmpty then return acc else readAll stream (acc ++ line)

end ViewEngine.Cli

/-- Runs the command line on the process's arguments, input and working directory. -/
def main (args : List String) : IO UInt32 := do
  let mut files : List (String × String) := []
  for path in ViewEngine.Cli.candidatePaths args do
    if let some text ← ViewEngine.Cli.readIfPresent path then files := files ++ [(path, text)]
  let stdin ← if args.contains "-" then ViewEngine.Cli.readAll (← IO.getStdin) "" else pure ""
  let out := ViewEngine.Cli.run args ⟨stdin, files⟩
  let stdout ← IO.getStdout
  stdout.putStr out.stdout
  stdout.flush
  let stderr ← IO.getStderr
  stderr.putStr out.stderr
  stderr.flush
  return out.code.toUInt32
