import IacLint.Ansible.Playbook
import IacLint.Catalog
import IacLint.Finding
import IacLint.Text.Search
import IacLint.Text.Blank
import IacLint.Text.Utf8

/-!
# Checks of playbooks

A play without hosts is flagged. Each task is checked, in this order, for privilege
escalation (a missing `become`, or `become: false`), the required `name`, modules that
are deprecated or discouraged (attributes other than the reserved keys), and
attributes that look secret-bearing and hold non-blank text. Last, every play
variable that no task of the file refers to is flagged, in the order the variables
are first defined.

A task refers to a variable by writing `{{ name }}` in one of its text attributes:
every `{{` of a text that holds both `{{` and `}}` opens a reference, whose name is what
follows up to the next `}}`, blanks stripped. The test is lexical; where a variable is
defined does not matter.

## Main definitions

* `taskChecks` — the task checks in order
* `referencedVariables` — the variables a task refers to
* `checkPlaybook` — the findings of a playbook
* `ansibleRule` — the rule on a tree
-/

namespace IacLint.Ansible

open IacLint.Data IacLint.Text IacLint.Files

/-- A check of one task of a file. -/
abbrev TaskCheck := String → Task → List Finding

/-- A play without hosts. -/
def checkPlayHosts (path : String) (p : Play) : List Finding :=
  match p.hosts with
  | .null => [⟨path, .warn, "Play missing required field 'hosts'"⟩]
  | _ => []

/-- A task without `become`, or with `become` false. -/
def checkBecome : TaskCheck := fun path t =>
  if !t.has "become" then
    [⟨path, .warn, "Task missing 'become' field (no privilege escalation specified)"⟩]
  else
    match t.get? "become" with
    | some (.bool false) => [⟨path, .warn, "'become' is false in task (possible privilege issue)"⟩]
    | _ => []

/-- A task without a required field. -/
def checkRequiredFields : TaskCheck := fun path t =>
  (Catalog.requiredTaskFields.filter fun f => !t.has f).map fun f =>
    ⟨path, .warn, "Task missing required field '" ++ f ++ "'"⟩

/-- Attributes naming a deprecated or discouraged module, with the reason. -/
def checkDeprecatedModules : TaskCheck := fun path t =>
  t.attributeNames.filterMap fun k =>
    if Catalog.reservedTaskKeys.contains k then none
    else (Catalog.deprecatedModules.lookup k).map fun why =>
      ⟨path, .warn, "Use of deprecated module '" ++ k ++ "': " ++ why⟩

/-- Attributes that look secret-bearing and hold text that is not blank. -/
def checkSecretAttributes : TaskCheck := fun path t =>
  (t.textValues.filter fun (k, v) => Catalog.containsSecretKeyword k && strip v != "").map
    fun (k, _) => ⟨path, .error, "Possible hardcoded secret in attribute '" ++ k ++ "'"⟩

/-- The task checks, in order. -/
def taskChecks : List TaskCheck :=
  [checkBecome, checkRequiredFields, checkDeprecatedModules, checkSecretAttributes]

/-- The findings of the task checks on one task. -/
def checkTask (path : String) (t : Task) : List Finding := taskChecks.flatMap fun c => c path t

/-- The names a text refers to as `{{ name }}`. -/
def referencesIn (value : String) : List String :=
  if !occursIn "\x7b\x7b" value || !occursIn "\x7d\x7d" value then []
  else
    ((splitOnText value "\x7b\x7b").drop 1).filterMap fun part =>
      let name := strip ((splitOnText part "\x7d\x7d").headD "")
      if name.isEmpty then none else some name

/-- The variables a task refers to, in the order of its text attributes. -/
def referencedVariables (t : Task) : List String :=
  t.textValues.flatMap fun (_, v) => referencesIn v

/-- Play variables that no task of the file refers to. -/
def checkUnusedVariables (path : String) (plays : List Play) : List Finding :=
  let defined := plays.foldl (fun acc p =>
    p.vars.foldl (fun acc (n, _) => if acc.contains n then acc else acc ++ [n]) acc) []
  let used := plays.flatMap fun p => p.tasks.flatMap referencedVariables
  (defined.filter fun n => !used.contains n).map fun n =>
    ⟨path, .warn, "Variable '" ++ n ++ "' defined but not used"⟩

/-- The findings of a playbook: each play's hosts and tasks, then unused variables. -/
def checkPlaybook (path : String) (plays : List Play) : List Finding :=
  plays.flatMap (fun p => checkPlayHosts path p ++ p.tasks.flatMap (checkTask path)) ++
    checkUnusedVariables path plays

/-- The report on the text of one playbook file: a text that is not a playbook gives
one error finding, and a failing reader stops the file with its message. -/
def checkText (path text : String) : FileReport :=
  match parsePlaybook text with
  | .ok plays => { findings := checkPlaybook path plays }
  | .error e =>
    match e.parseMessage, e with
    | some m, _ => { findings := [⟨path, .error, "YAML parse error: " ++ m⟩] }
    | none, .raised _ m => { failure := some m }
    | none, _ => {}

/-- The rule for playbooks in a tree. -/
def ansibleRule (t : Tree) : Rule where
  name := "ansible"
  extensions := [".yml", ".yaml"]
  scanFile path :=
    match t.readBytes path with
    | .error e => { findings := [⟨path, .error, "Failed to read file: " ++ e.message⟩] }
    | .ok bs => checkText path (Text.readText bs)

end IacLint.Ansible
