import IacLint.Finding
import IacLint.Json.Write
import IacLint.Text.Search

/-!
# Reports

An outcome is rendered in one of four formats:

* `text` — a line `[SEVERITY] file: message` per finding, then a blank line and the
  summary table (the table alone when there is no finding);
* `markdown` — a heading, a blank line, then a bullet per finding (or "No issues
  found."), ending with a line end;
* `json` — the findings as objects with keys `File`, `Severity`, `Message`, indented by
  two spaces, in ASCII;
* `gha` — a workflow command per finding, `::level file=F::message`, each ending with a
  line end, the message escaped so that it stays on one line.

## Main definitions

* `ReportFormat`, `ReportFormat.ofName?` — the formats and their names
* `escapeWorkflowMessage` — the escaped message of a workflow command
* `Outcome.render`, `Outcome.renderNamed` — the report in a format
-/

namespace IacLint

/-- A report format. -/
inductive ReportFormat where
  | text
  | json
  | markdown
  | gha
  deriving DecidableEq, Repr, Inhabited

namespace ReportFormat

/-- All formats, in the order they are listed to users. -/
def all : List ReportFormat := [.text, .json, .markdown, .gha]

/-- The name of a format. -/
def name : ReportFormat → String
  | .text => "text"
  | .json => "json"
  | .markdown => "markdown"
  | .gha => "gha"

/-- The format with a name, matched exactly. -/
def ofName? (s : String) : Option ReportFormat := all.find? (·.name = s)

end ReportFormat

/-- The escapes of a workflow command's message, applied in this order: the percent
sign first, so that the escapes it introduces are not escaped again. -/
def annotationEscapes : List (String × String) :=
  [("%", "%25"), ("\r", "%0D"), ("\n", "%0A"), (":", "%3A"), (",", "%2C")]

/-- The message of a workflow command, percent-escaped. -/
def escapeWorkflowMessage (message : String) : String :=
  annotationEscapes.foldl (fun m e => Text.replaceAll m e.1 e.2) message

/-- The level word of a workflow command. -/
def annotationLevel : Severity → String
  | .error => "error"
  | .warn => "warning"
  | .info => "notice"

namespace Finding

/-- The line of a text report. -/
def textLine (f : Finding) : String := "[" ++ f.severity.name ++ "] " ++ f.file ++ ": " ++ f.message

/-- The bullet of a markdown report. -/
def markdownLine (f : Finding) : String :=
  "- **[" ++ f.severity.name ++ "]** " ++ String.ofList ['\x60'] ++ f.file ++
    String.ofList ['\x60'] ++ ": " ++ f.message

/-- The object of a json report. -/
def toJson (f : Finding) : Json.Doc :=
  .obj [("File", .str f.file), ("Severity", .str f.severity.name), ("Message", .str f.message)]

/-- The workflow command of a gha report, with its line end. -/
def ghaLine (f : Finding) : String :=
  "::" ++ annotationLevel f.severity ++ " file=" ++ f.file ++ "::" ++
    escapeWorkflowMessage f.message ++ "\n"

end Finding

namespace Outcome

/-- The report of an outcome in a format. -/
def render (r : Outcome) : ReportFormat → String
  | .text =>
    let body := "\n".intercalate (r.findings.map Finding.textLine)
    if body.isEmpty then r.summaryTable else body ++ "\n\n" ++ r.summaryTable
  | .markdown =>
    let lines := ["# InfraCheck Report", ""] ++
      (if r.findings.isEmpty then ["No issues found."] else []) ++
      r.findings.map Finding.markdownLine
    "\n".intercalate lines ++ "\n"
  | .json => (Json.Doc.arr (r.findings.map Finding.toJson)).indented 0
  | .gha => String.join (r.findings.map Finding.ghaLine)

/-- The report in the format named `name`, or the complaint about an unknown name. -/
def renderNamed (r : Outcome) (name : String) : Except String String :=
  match ReportFormat.ofName? name with
  | some fmt => .ok (r.render fmt)
  | none => .error ("Unknown report format " ++ Text.quote name)

end Outcome

end IacLint
