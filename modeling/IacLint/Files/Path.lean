import IacLint.Text.Blank

/-!
# Paths

Paths are written with `/`. A path is shown in its *normal form*: empty parts and `.`
parts dropped, a leading `/` kept (two leading slashes, exactly two, are kept as they
are), and `.` for a path with nothing left. `..` parts are kept: what they lead to
depends on the files, so only resolving the path against a tree removes them.

The *suffix* of a path is the part of its last name from the last dot on, provided
that dot is neither the first nor the last character of the name: `a.tf` has suffix
`.tf`, while `.tf`, `x.tf.` and `..` have none.

## Main definitions

* `parts`, `normalize` — the parts of a path and its normal form
* `join` — a name below a directory
* `baseName`, `suffix` — the last name of a path and its suffix
-/

namespace IacLint.Files

/-- The names of a path: its parts between slashes, without empty and `.` parts. -/
def parts (p : String) : List String :=
  (Text.splitOnChar p '/').filter fun s => s != "" && s != "."

/-- The leading slashes a normal form keeps. -/
def anchor (p : String) : String :=
  match p.toList with
  | '/' :: '/' :: '/' :: _ => "/"
  | '/' :: '/' :: _ => "//"
  | '/' :: _ => "/"
  | _ => ""

/-- The normal form of a path. -/
def normalize (p : String) : String :=
  let a := anchor p
  let body := "/".intercalate (parts p)
  if a.isEmpty && body.isEmpty then "." else a ++ body

/-- The path of `name` inside the directory `dir` (in normal form). -/
def join (dir name : String) : String :=
  if dir == "." then name
  else if dir.endsWith "/" then dir ++ name
  else dir ++ "/" ++ name

/-- The last name of a path, empty for `.` and `/`. -/
def baseName (p : String) : String := (parts p).getLast?.getD ""

/-- The position of the last `c` in a list, if any. -/
def lastIndexOf (c : Char) (cs : List Char) : Option Nat :=
  (cs.zipIdx.filter (·.1 == c)).getLast?.map (·.2)

/-- The suffix of a path: from the last dot of its last name, when that dot is neither
the name's first nor its last character; empty otherwise. -/
def suffix (p : String) : String :=
  let n := (baseName p).toList
  match lastIndexOf '.' n with
  | some i => if 0 < i ∧ i + 1 < n.length then String.ofList (n.drop i) else ""
  | none => ""

end IacLint.Files
