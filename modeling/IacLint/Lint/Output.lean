import IacLint.Finding
import IacLint.Text.Blank

/-!
# What the manifest linter reports

The linter prints one problem per line. Its output is the non-blank lines of what it
printed, whatever its exit status; when it printed nothing but blanks and failed, the
output is a tool error instead: what it wrote to its error stream, stripped, or
`exit status N` when that is blank too. Lines become warnings; a tool error becomes
one error finding.

## Main definitions

* `LinterOutput` — lines, or the reason the linter could not run
* `parseLinterOutput` — the output of a finished run
* `linterFindings` — the findings of an output
-/

namespace IacLint.Lint

open IacLint.Text

/-- Lines reported by the linter, or the reason it could not run. -/
structure LinterOutput where
  lines : List String := []
  error : Option String := none
  deriving Inhabited

/-- The output of a finished run from what it printed and its exit status. -/
def parseLinterOutput (stdout : String) (stderr : Option String) (code : Int) : LinterOutput :=
  let lines := (splitLines stdout).filter fun l => strip l != ""
  if !lines.isEmpty then { lines }
  else if code != 0 then
    let m := strip (stderr.getD "")
    { error := some (if m.isEmpty then "exit status " ++ toString code else m) }
  else {}

/-- The findings of linter output: a warning per line, or else the tool error. -/
def linterFindings (path : String) (o : LinterOutput) : List Finding :=
  if !o.lines.isEmpty then o.lines.map fun l => ⟨path, .warn, l⟩
  else
    match o.error with
    | some e => if e.isEmpty then [] else [⟨path, .error, "puppet-lint error: " ++ e⟩]
    | none => []

end IacLint.Lint
