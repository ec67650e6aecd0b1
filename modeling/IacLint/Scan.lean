import IacLint.Files.Walk
import IacLint.Finding

/-!
# Scanning a tree

A scan finds the files of one kind under a root and runs that kind's checks on each,
collecting the findings in walk order and, within a file, in check order.

Files are isolated from each other: when the checks of one file stop on an unexpected
failure, the findings made so far are kept, an error finding
`Internal error while scanning file: …` records the failure, and the scan goes on
with the next file. Only a root that cannot be read stops the scan, with the message
`Cannot traverse <root>: <failure>`.

## Main definitions

* `FileReport` — the findings of one file and the failure that stopped it, if any
* `Rule` — the checks of one kind of file
* `parseDiagnostic` — the text that stands for a reader's diagnostic
* `scan` — the outcome of a rule on every file under a root
-/

namespace IacLint

open IacLint.Files

/-- The text that stands for the diagnostic of a reader that fails on a document. The
readers' own wording is not kept; only the fact that they failed. -/
def parseDiagnostic : String := "<diagnostic>"

/-- What scanning one file gives. -/
structure FileReport where
  /-- The findings, in check order. -/
  findings : List Finding := []
  /-- The message of the failure that stopped the checks, if one did. -/
  failure : Option String := none
  deriving Inhabited

/-- The findings a file adds to a scan: its own, then one error for its failure. -/
def FileReport.allFindings (path : String) (r : FileReport) : List Finding :=
  r.findings ++ match r.failure with
    | some m => [⟨path, .error, "Internal error while scanning file: " ++ m⟩]
    | none => []

/-- The checks of one kind of file. -/
structure Rule where
  /-- The kind of file. -/
  name : String
  /-- The suffixes of the files the rule reads. -/
  extensions : List String
  /-- The report on the file at a path. -/
  scanFile : String → FileReport

/-- The outcome of a rule on every file under `root`, or the message of the failure
on the root. -/
def scan (t : Tree) (root : String) (rule : Rule) : Except String Outcome :=
  match filesUnder t root rule.extensions with
  | .error e => .error ("Cannot traverse " ++ root ++ ": " ++ e.message)
  | .ok paths => .ok (Outcome.ofFindings (paths.flatMap fun p => (rule.scanFile p).allFindings p))

end IacLint
