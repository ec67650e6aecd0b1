import IacLint.Severity

/-!
# Findings and scan outcomes

A finding ties a message of some severity to a file. The outcome of a scan is the list
of its findings in the order they were made, together with a tally of them by severity.
The outcome passes when no finding is an error, and it fails a threshold when its most
severe finding reaches it.

## Main definitions

* `Finding` — one reported problem
* `Tally` — counts by severity, their total and the most severe one present
* `Outcome` — findings in order with their tally; `Outcome.add`, `Outcome.exitCode`
* `Outcome.summaryTable` — the table closing a text report
-/

namespace IacLint

/-- One reported problem of a file. -/
structure Finding where
  /-- The file, as its path is written. -/
  file : String
  /-- How severe the problem is. -/
  severity : Severity
  /-- What the problem is. -/
  message : String
  deriving DecidableEq, Repr, Inhabited

/-- The number of findings of each severity. -/
structure Tally where
  /-- Findings of severity `ERROR`. -/
  error : Nat := 0
  /-- Findings of severity `WARN`. -/
  warn : Nat := 0
  /-- Findings of severity `INFO`. -/
  info : Nat := 0
  deriving DecidableEq, Repr, Inhabited

namespace Tally

/-- The tally with one more finding of severity `s`. -/
def add (t : Tally) : Severity → Tally
  | .error => { t with error := t.error + 1 }
  | .warn => { t with warn := t.warn + 1 }
  | .info => { t with info := t.info + 1 }

/-- The count of severity `s`. -/
def count (t : Tally) : Severity → Nat
  | .error => t.error
  | .warn => t.warn
  | .info => t.info

/-- The severities in the order reports list them: most severe first. -/
def order : List Severity := [.error, .warn, .info]

/-- All findings counted. -/
def total (t : Tally) : Nat := t.error + t.warn + t.info

/-- The most severe severity with a finding, if there is any finding. -/
def highest (t : Tally) : Option Severity := order.find? fun s => t.count s > 0

end Tally

/-- The findings of a scan in the order they were made, and their tally. -/
structure Outcome where
  /-- Counts by severity. -/
  tally : Tally := {}
  /-- The findings, oldest first. -/
  findings : List Finding := []
  deriving Repr, Inhabited

namespace Outcome

/-- The outcome with one more finding, counted and placed last. -/
def add (r : Outcome) (f : Finding) : Outcome :=
  ⟨r.tally.add f.severity, r.findings ++ [f]⟩

/-- The outcome with several more findings, in their order. -/
def addAll (r : Outcome) (fs : List Finding) : Outcome := fs.foldl add r

/-- The outcome of exactly the findings `fs`. -/
def ofFindings (fs : List Finding) : Outcome := addAll {} fs

/-- Whether no finding is an error. -/
def passed (r : Outcome) : Bool := r.tally.error = 0

/-- `1` when the most severe finding reaches `threshold`, else `0`. -/
def exitCode (r : Outcome) (threshold : Severity) : Nat :=
  match r.tally.highest with
  | some s => if threshold ≤ s then 1 else 0
  | none => 0

/-- `s` padded on the right with spaces to `width`. -/
def padRight (width : Nat) (s : String) : String :=
  s ++ String.ofList (List.replicate (width - s.length) ' ')

/-- `s` padded on the left with spaces to `width`. -/
def padLeft (width : Nat) (s : String) : String :=
  String.ofList (List.replicate (width - s.length) ' ') ++ s

/-- The table that closes a text report: counts by severity, pass or fail, total. -/
def summaryTable (r : Outcome) : String :=
  let header := padRight 10 "Severity" ++ " | " ++ padLeft 5 "Count"
  let rule := String.ofList (List.replicate header.length '-')
  let rows := Tally.order.map fun s =>
    padRight 10 s.name ++ " | " ++ padLeft 5 (toString (r.tally.count s))
  "\n".intercalate (["Scan Summary", String.ofList (List.replicate 40 '='), header, rule] ++
    rows ++ [rule, "Status    : " ++ (if r.passed then "PASS" else "FAIL"),
      "Findings  : " ++ toString r.tally.total])

end Outcome

end IacLint
