import IacLint.Host.Process
import IacLint.Tools.Options

/-!
# Listing directories

`ls [OPTION]… [FILE]…` writes the names in each directory operand and the names of
the other operands, one per line (its output is no terminal), sorted by name. Files
come first, then each directory under a `NAME:` heading when there are several
operands. Names starting with `.` are left out unless `-a` (which adds `.` and `..`)
or `-A`; `-d` lists directories as files, `-r` reverses the order, `-F` marks
directories with `/`, programs with `*` and links with `@`, and `-p` marks
directories. An operand that does not exist is reported, and the run then fails with
status 2.

## Main definitions

* `runLs` — the `ls` utility
-/

namespace IacLint.Tools

open IacLint.Host IacLint.Files

/-- How `ls` lists names. -/
structure LsStyle where
  all : Bool := false
  almostAll : Bool := false
  directoriesAsFiles : Bool := false
  reverse : Bool := false
  classify : Bool := false
  slashes : Bool := false

/-- The options of `ls`. -/
def lsOptions : OptionSpec :=
  { flags := "aAdrFp1lhtSURi".toList,
    longs := [("all", "a", false), ("almost-all", "A", false), ("directory", "d", false),
      ("reverse", "r", false), ("classify", "F", false), ("help", "help", false),
      ("version", "version", false)] }

/-- The mark `-F` or `-p` puts after a name. -/
def lsMark (style : LsStyle) (n : Option Node) : String :=
  match n with
  | some .dir => if style.classify || style.slashes then "/" else ""
  | some (.file _ true) => if style.classify then "*" else ""
  | some (.link _) => if style.classify then "@" else ""
  | _ => ""

/-- Sorts names in the order `ls` writes them. -/
def lsSort (style : LsStyle) (names : List String) : List String :=
  let sorted := names.mergeSort fun a b => decide (a ≤ b)
  if style.reverse then sorted.reverse else sorted

/-- The lines for the names in a directory. -/
def lsDirectory (ctx : Context) (style : LsStyle) (loc : List String) : String :=
  let names := ctx.tree.childNames loc
  let names := if style.all then [".", ".."] ++ names
    else if style.almostAll then names else names.filter fun n => !n.startsWith "."
  String.join ((lsSort style names).map fun n =>
    let node := if n == "." || n == ".." then some Node.dir else ctx.tree.find? (loc ++ [n])
    n ++ lsMark style node ++ "\n")

/-- `ls` run as `name` in a context. -/
def runLs (ctx : Context) (name : String) (args : List String) : Completed :=
  match readOptions lsOptions args with
  | .error m => { complaint (usageLines name m) with status := 2 }
  | .ok (gs, ops) =>
    let style : LsStyle :=
      { all := hasOption gs "a", almostAll := hasOption gs "A", directoriesAsFiles := hasOption gs "d",
        reverse := hasOption gs "r", classify := hasOption gs "F", slashes := hasOption gs "p" }
    let ops := if ops.isEmpty then ["."] else ops
    let found := ops.map fun p => (p, ctx.stat p)
    let missing := found.filterMap fun (p, r) => match r with
      | .error e => some (name ++ ": cannot access '" ++ p ++ "': " ++ e.text)
      | .ok _ => none
    let isDir (r : Except Errno (List String × Node)) : Bool := match r with
      | .ok (_, .dir) => !style.directoriesAsFiles
      | _ => false
    let files := found.filter fun (_, r) => r.toOption.isSome && !isDir r
    let dirs := found.filter fun (_, r) => isDir r
    let fileText := String.join ((lsSort style (files.map (·.1))).map fun p =>
      let node := (files.lookup p).bind fun r => r.toOption.map (·.2)
      p ++ lsMark style node ++ "\n")
    let headed := found.length > 1
    let dirTexts := (lsSort style (dirs.map (·.1))).map fun p =>
      match dirs.lookup p with
      | some (.ok (loc, _)) => (if headed then p ++ ":\n" else "") ++ lsDirectory ctx style loc
      | _ => ""
    let parts := (if fileText.isEmpty then [] else [fileText]) ++ dirTexts
    let run := missing.foldl (fun (c : Completed) m => c.warn m) {}
    { run.say ("\n".intercalate parts) with status := if missing.isEmpty then 0 else 2 }

end IacLint.Tools
