import IacLint.Cli.Run
import IacLint.Files.Snapshot
import IacLint.Json.Read

/-!
# The command line

`infra-check [-v] scan DIALECT PATH [options]` scans a workspace given as a snapshot
on standard input (see `Files.Tree.ofSnapshot`), with the linter variables of the
environment. The report goes to standard output, configuration and scan failures to
standard error, and the process exits with the run's status: 0 when no finding
reaches the threshold, 1 when one does, 2 for a fatal failure or bad arguments. A
failure raised while running is written as `Kind: message`, with status 1.
-/

open IacLint IacLint.Files IacLint.Cli

/-- Runs the command line on the workspace read from standard input. -/
def main (argv : List String) : IO UInt32 := do
  let text ← (← IO.getStdin).readToEnd
  let tree := match Json.parse? text with
    | some v => Tree.ofSnapshot v
    | none => {}
  let mut env : List (String × String) := []
  for name in [Config.envLinterCommand, Config.envLinterTimeout] do
    if let some value ← IO.getEnv name then
      env := env ++ [(name, value)]
  match runCli tree argv env with
  | .parsing status =>
    if status == 0 then IO.println usage else IO.eprintln usage
    return status.toUInt32
  | .raised kind message =>
    IO.eprintln (kind ++ ": " ++ message)
    return 1
  | .run r =>
    IO.print r.stdout
    IO.eprint r.stderr
    return r.exit.toUInt32
