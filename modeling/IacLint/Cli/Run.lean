import IacLint.Cli.Args
import IacLint.Engine
import IacLint.Report

/-!
# Running the command line

A run reads its arguments, loads the configuration (the file named by `--config` or
the default file, the environment, and the options given, which override both), scans
the path with the dialect's rule, and writes the report in the configured format:
to standard output, or to the file named by `--out`, whose missing parent directories
are made, with a line on standard output saying where it went. A report written to a
file always ends with a line break.

A configuration or scan failure is written to standard error as
`infra-check: <message>` and the run exits with status 2. Otherwise the exit status is
1 when some finding reaches the threshold severity, and 0 if not. Help exits with
status 0 and an argument error with status 2, before anything else happens.

## Main definitions

* `CliRun` — what a run gives
* `CliOutcome` — a run, an end in argument parsing, or a failure raised
* `runCli` — runs a command line on a tree with an environment
-/

namespace IacLint.Cli

open IacLint.Files IacLint.Config IacLint.Data

/-- What a run gives: its exit status, its standard output and error, and the tree
after it. -/
structure CliRun where
  exit : Nat
  stdout : String := ""
  stderr : String := ""
  tree : Tree
  deriving Inhabited

/-- How a command line ends: a run; argument parsing ending with a status; or a
failure raised with its kind and message. -/
inductive CliOutcome where
  | run (r : CliRun)
  | parsing (status : Nat)
  | raised (kind message : String)
  deriving Inhabited

/-- The status of a run that failed before scanning. -/
def fatalStatus : Nat := 2

/-- A fatal failure: the message on standard error. -/
def fatal (t : Tree) (message : String) : CliOutcome :=
  .run { exit := fatalStatus, stderr := "infra-check: " ++ message ++ "\n", tree := t }

/-- The settings the options give. -/
def CliArgs.overrides (a : CliArgs) : Settings :=
  { reportFormat := a.reportFormat.map .str, failOn := a.failOn.map .str,
    linterCommand := a.linterCommand.map .str, linterTimeout := a.linterTimeout }

/-- Writes a report to a file, making its directory first. -/
def writeReport (t : Tree) (path payload : String) : Except OsError Tree := do
  let t ← t.makeDirsAt Tree.resolveFuel (Tree.parentOf path)
  let text := if payload.endsWith "\n" then payload else payload ++ "\n"
  t.writeBytes path (Text.encode text)

/-- Runs a command line on a tree with an environment. -/
def runCli (t : Tree) (argv : List String) (env : List (String × String)) : CliOutcome :=
  match parseArgs argv with
  | .help => .parsing 0
  | .error => .parsing 2
  | .ok a =>
    match loadConfig t a.config env a.overrides with
    | .error (.config m) => fatal t m
    | .error (.raised k m) => .raised k m
    | .ok config =>
      match ruleFor t a.dialect config with
      | .error m => .raised "ValueError" m
      | .ok rule =>
        match scan t a.path rule with
        | .error m => fatal t m
        | .ok outcome =>
          let formatName := match config.reportFormat with
            | .str s => s
            | v => v.plain
          let payload := match outcome.renderNamed formatName with
            | .ok s => s
            | .error _ => ""
          let exit := match config.threshold with
            | .ok sev => outcome.exitCode sev
            | .error _ => fatalStatus
          match a.output with
          | some path =>
            if path.isEmpty then
              .run { exit, stdout := if payload.endsWith "\n" then payload else payload ++ "\n", tree := t }
            else
              match writeReport t path payload with
              | .ok t' => .run { exit, stdout := "Report written to " ++ path ++ "\n", tree := t' }
              | .error e => .raised e.errno.kind e.message
          | none =>
            .run { exit, stdout := if payload.endsWith "\n" then payload else payload ++ "\n", tree := t }

end IacLint.Cli
