import IacLint.Lint.Output
import IacLint.Host.Launch
import IacLint.Number.Format
import IacLint.Text.Utf8

/-!
# Running the manifest linter

The linter is a command run with the manifest's path as its one argument, under an
optional time limit. What it prints is read as text (invalid UTF-8 replaced, line
breaks unified) and becomes `LinterOutput` by `parseLinterOutput`. A run that cannot
start, or that outlives its limit, is a tool error instead:

* `executable 'CMD' not found` when there is no such program;
* the system's refusal, such as `[Errno 13] Permission denied: 'CMD'`;
* `timed out after Ns` when the run sleeps at least as long as its limit (`N` in the
  short general form of numbers), or at once for a negative limit.

A limit of zero means none, as does a missing one. The wait is counted in whole
milliseconds that must fit a signed 32-bit count, so a limit that is NaN, infinite or
over 2147483.647 seconds cannot be waited on: a run that starts under such a limit
fails with `WaitFailure` instead of giving output.

## Main definitions

* `PuppetLint` — the linter command and its time limit
* `WaitFailure`, `waitFailure?` — limits that cannot be waited on
* `PuppetLint.run` — the linter's output on one file
-/

namespace IacLint.Lint

open IacLint.Host IacLint.Files IacLint.Text IacLint.Number

/-- The command that lints manifests, and its time limit in seconds. -/
structure PuppetLint where
  command : String := "puppet-lint"
  timeout : Option Float := some 60
  deriving Inhabited

/-- A linter with a time limit where zero means none. -/
def PuppetLint.withLimit (command : String) (limit : Option Float) : PuppetLint :=
  { command, timeout := limit.bind fun x => if x == 0 then none else some x }

/-- Why waiting on a run failed: the kind of failure and its message. -/
structure WaitFailure where
  kind : String
  message : String
  deriving Inhabited

/-- The failure of waiting under a limit that is not negative: NaN and infinity have no
count of milliseconds, and a count must be at most `2^31 - 1`, while the time itself
must be at most `2^63 - 1` nanoseconds. -/
def waitFailure? (limit : Float) : Option WaitFailure :=
  if limit.isNaN then some ⟨"ValueError", "cannot convert float NaN to integer"⟩
  else if limit.isInf then some ⟨"OverflowError", "cannot convert float infinity to integer"⟩
  else if limit * 1000 > 9223372036854 then
    some ⟨"OverflowError", "timestamp too large to convert to C _PyTime_t"⟩
  else if limit * 1000 > 2147483647 then some ⟨"OverflowError", "timeout is too large"⟩
  else none

/-- The linter's output on the file at `path` in the tree, or the failure of waiting
on it. -/
def PuppetLint.run (l : PuppetLint) (t : Tree) (path : String) : Except WaitFailure LinterOutput :=
  match launch t launchFuel l.command [path] with
  | .error .notFound => .ok { error := some ("executable '" ++ l.command ++ "' not found") }
  | .error (.refused e) => .ok { error := some e.message }
  | .ok c =>
    match l.timeout with
    | some limit =>
      if limit < 0 then .ok { error := some ("timed out after " ++ limit.generalText ++ "s") }
      else match waitFailure? limit with
        | some f => .error f
        | none =>
          if c.slept ≥ limit then .ok { error := some ("timed out after " ++ limit.generalText ++ "s") }
          else .ok (parseLinterOutput (readText c.stdout) (some (readText c.stderr)) c.status)
    | none => .ok (parseLinterOutput (readText c.stdout) (some (readText c.stderr)) c.status)

end IacLint.Lint
