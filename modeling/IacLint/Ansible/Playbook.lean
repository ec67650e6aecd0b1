import IacLint.Yaml.Load
import IacLint.Data.Value.Text
import IacLint.Scan

/-!
# Playbooks: plays and tasks

A playbook is a YAML document that is a list of plays. A play is a mapping with
optional `hosts`, `vars` (a mapping) and `tasks` (a list of mappings); a missing or
null `vars` or `tasks` is empty. Keys of a task and of `vars` are taken as text: the
plain form of whatever the document's key was, so `1` becomes `"1"` and `true`
becomes `"True"`; when two keys have one plain form, the first keeps its place and
the last value wins. An empty document is a playbook without plays.

A document of any other shape is refused with a message that names the place and
the kind of value found there, such as `play #1 task #2 is a int, expected a mapping`.

## Main definitions

* `Task`, `Play` — the parts of a playbook
* `kindPhrase` — how refusals name the kind of a value
* `PlaybookError` — why a text is not a playbook
* `playsOfDocument` — the plays of a loaded document
* `parsePlaybook` — the plays of a text
-/

namespace IacLint.Ansible

open IacLint.Data

/-- A task: its attributes by name, in the order they first appear. -/
structure Task where
  fields : List (String × Value)
  deriving Inhabited

/-- Why a text is not a playbook. -/
inductive PlaybookError where
  /-- The text is not YAML the loader accepts. -/
  | unreadable
  /-- The document does not have a playbook's shape. -/
  | shape (message : String)
  /-- A reader failed with its own kind and message. -/
  | raised (kind message : String)
  deriving Inhabited

/-- The plain form of a mapping key, or the complaint of text conversion about an integer
in it of too many digits to be written. -/
def keyText (k : Value) : Except PlaybookError String :=
  k.plainText.mapError (.raised "ValueError")

/-- A task of the entries of a mapping, keys in their plain form; an entry whose key
has the plain form of an earlier one replaces that one's value in place. -/
def Task.ofEntries (kvs : Entries) : Except PlaybookError Task := do
  let fields ← kvs.foldlM (fun acc kv => do
    let k ← keyText kv.1
    if acc.any (·.1 == k) then return acc.map fun e => if e.1 == k then (k, kv.2) else e
    else return acc ++ [(k, kv.2)]) []
  return ⟨fields⟩

namespace Task

/-- The value of an attribute. -/
def get? (t : Task) (name : String) : Option Value := t.fields.lookup name

/-- Whether the task has an attribute. -/
def has (t : Task) (name : String) : Bool := t.fields.any (·.1 == name)

/-- The names of the attributes, in order. -/
def attributeNames (t : Task) : List String := t.fields.map (·.1)

/-- The attributes whose values are text, in order. -/
def textValues (t : Task) : List (String × String) :=
  t.fields.filterMap fun (k, v) => match v with
    | .str s => some (k, s)
    | _ => none

end Task

/-- A play: its hosts (null when missing), its variables and its tasks. -/
structure Play where
  hosts : Value
  vars : List (String × Value)
  tasks : List Task
  deriving Inhabited

/-- How a refusal names the kind of a value: `a mapping`, `a list`, or `a` and the
kind's name. -/
def kindPhrase : Value → String
  | .map _ => "a mapping"
  | .list _ => "a list"
  | v => "a " ++ v.kindName

/-- The entries of the `vars` of the play at `place`: none when it is missing or null. -/
def varsEntries (place : String) : Option Value → Except PlaybookError Entries
  | none | some .null => pure []
  | some (.map vs) => pure vs
  | some v => throw (.shape (place ++ " 'vars' is " ++ kindPhrase v ++ ", expected a mapping"))

/-- The elements of the `tasks` of the play at `place`: none when it is missing or null. -/
def taskItems (place : String) : Option Value → Except PlaybookError (List Value)
  | none | some .null => pure []
  | some (.list ts) => pure ts
  | some v => throw (.shape (place ++ " 'tasks' is " ++ kindPhrase v ++ ", expected a list"))

/-- The task at position `position` (from 1) of the play at `place`. -/
def taskAt (place : String) (t : Value) (position : Nat) : Except PlaybookError Task :=
  match t with
  | .map fields => Task.ofEntries fields
  | v => throw (.shape (place ++ " task #" ++ toString position ++ " is " ++ kindPhrase v ++
      ", expected a mapping"))

/-- The play at position `index` (from 1) of a playbook. -/
def buildPlay (index : Nat) (entry : Value) : Except PlaybookError Play := do
  let place := "play #" ++ toString index
  let .map kvs := entry
    | throw (.shape (place ++ " is " ++ kindPhrase entry ++ ", expected a mapping"))
  let vars ← varsEntries place (Entries.get? kvs "vars")
  let rawTasks ← taskItems place (Entries.get? kvs "tasks")
  let tasks ← (rawTasks.zipIdx 1).mapM fun (t, position) => taskAt place t position
  let vars ← Task.ofEntries vars
  return { hosts := (Entries.get? kvs "hosts").getD .null, vars := vars.fields, tasks }

/-- The plays of a loaded document: none for an empty document, else one for each entry
of a list, built in order. -/
def playsOfDocument (document : Option Value) : Except PlaybookError (List Play) :=
  match document with
  | none | some .null => return []
  | some (.list entries) => (entries.zipIdx 1).mapM fun (e, i) => buildPlay i e
  | some d => throw (.shape ("expected a list of plays, got " ++ kindPhrase d))

/-- The plays of a playbook text. -/
def parsePlaybook (text : String) : Except PlaybookError (List Play) := do
  let document ← match Yaml.loadFirst text with
    | .ok d => pure d
    | .error .invalid => throw .unreadable
    | .error (.raised kind message) => throw (.raised kind message)
  playsOfDocument document

/-- The message of a refusal: the shape message, or the stand-in for a loader's
diagnostic. -/
def PlaybookError.parseMessage : PlaybookError → Option String
  | .unreadable => some parseDiagnostic
  | .shape m => some m
  | .raised _ _ => none

end IacLint.Ansible
