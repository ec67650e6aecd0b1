import IacLint.Scan
import IacLint.Hcl.Read
import IacLint.Terraform.Checks
import IacLint.Text.Utf8

/-!
# The infrastructure-file rule

Each `.tf` file is read as text and then as a configuration document; its resource and
variable blocks, in line order, go through the block checks. A file that is not a valid
document gives one error finding, `Failed to parse HCL file: <diagnostic>`, and no other; a
document whose blocks cannot be read (a key that cannot be written as text) stops the file
with that failure.

## Main definitions

* `terraformRule` — the rule on a tree
-/

namespace IacLint.Terraform

open IacLint.Files

/-- The report on the text of one file: a text that is not a document gives one error
finding, and a document whose blocks cannot be read stops the file with the complaint. -/
def checkText (path text : String) : FileReport :=
  match Hcl.readDocument text with
  | some doc =>
    match blocksOf doc with
    | .ok blocks => { findings := blocks.flatMap (checkBlock path) }
    | .error m => { failure := some m }
  | none => { findings := [⟨path, .error, "Failed to parse HCL file: " ++ parseDiagnostic⟩] }

/-- The rule for infrastructure files in a tree. -/
def terraformRule (t : Tree) : Rule where
  name := "terraform"
  extensions := [".tf"]
  scanFile path :=
    match t.readBytes path with
    | .error e => { findings := [⟨path, .error, "Failed to read file: " ++ e.message⟩] }
    | .ok bs => checkText path (Text.readText bs)

end IacLint.Terraform
