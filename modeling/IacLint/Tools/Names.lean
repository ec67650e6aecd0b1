import IacLint.Host.Process
import IacLint.Tools.Options

/-!
# The parts of a path

`basename NAME [SUFFIX]` writes the last component of a path, without a suffix when
one is given and is not the whole component; `-a` takes every operand as a name and
`-s SUFFIX` names the suffix for all of them. `dirname NAME…` writes each path without
its last component, `.` when nothing is left. Slashes at the end of a path are
ignored, and a path of slashes only is `/`.

## Main definitions

* `lastComponent`, `parentPath` — the parts of a path
* `runBasename`, `runDirname` — the utilities
-/

namespace IacLint.Tools

open IacLint.Host

/-- A path without the slashes at its end; a path of slashes only stays one slash. -/
def stripSlashes (p : String) : String :=
  let cs := (p.toList.reverse.dropWhile (· = '/')).reverse
  if cs.isEmpty && !p.isEmpty then "/" else String.ofList cs

/-- The last component of a path. -/
def lastComponent (p : String) : String :=
  let s := stripSlashes p
  if s == "/" then "/" else String.ofList (s.toList.reverse.takeWhile (· ≠ '/')).reverse

/-- The last component without a suffix, unless the suffix is all of it. -/
def dropSuffix (base suffix : String) : String :=
  if !suffix.isEmpty && base.endsWith suffix && base != suffix then
    String.ofList (base.toList.take (base.length - suffix.length))
  else base

/-- A path without its last component: `.` when nothing is left. -/
def parentPath (p : String) : String :=
  let s := stripSlashes p
  if s == "/" then "/"
  else
    let up := (s.toList.reverse.dropWhile (· ≠ '/')).reverse
    if up.isEmpty then "."
    else
      let up := (up.reverse.dropWhile (· = '/')).reverse
      if up.isEmpty then "/" else String.ofList up

/-- `basename` run as `name`. -/
def runBasename (name : String) (args : List String) : Completed :=
  let spec : OptionSpec :=
    { flags := ['a', 'z'], valued := ['s'],
      longs := [("multiple", "a", false), ("suffix", "s", true), ("zero", "z", false),
        ("help", "help", false), ("version", "version", false)] }
  match readOptions spec args with
  | .error m => complaint (usageLines name m)
  | .ok (gs, ops) =>
    let ending := if hasOption gs "z" then "\x00" else "\n"
    let suffix := optionValue? gs "s"
    let multiple := hasOption gs "a" || suffix.isSome
    match ops with
    | [] => complaint (usageLines name "missing operand")
    | [p] => ({} : Completed).say (dropSuffix (lastComponent p) (suffix.getD "") ++ ending)
    | p :: s :: more =>
      if multiple then
        ({} : Completed).say (String.join (ops.map fun q => dropSuffix (lastComponent q) (suffix.getD "") ++ ending))
      else if more.isEmpty then ({} : Completed).say (dropSuffix (lastComponent p) s ++ ending)
      else complaint (usageLines name ("extra operand '" ++ more.headD "" ++ "'"))

/-- `dirname` run as `name`. -/
def runDirname (name : String) (args : List String) : Completed :=
  let spec : OptionSpec :=
    { flags := ['z'], longs := [("zero", "z", false), ("help", "help", false), ("version", "version", false)] }
  match readOptions spec args with
  | .error m => complaint (usageLines name m)
  | .ok (gs, ops) =>
    let ending := if hasOption gs "z" then "\x00" else "\n"
    if ops.isEmpty then complaint (usageLines name "missing operand")
    else ({} : Completed).say (String.join (ops.map fun p => parentPath p ++ ending))

end IacLint.Tools
