import IacLint.Host.Process
import IacLint.Tools.Options
import IacLint.Tools.Printf

/-!
# Sleeping

`sleep NUMBER[SUFFIX]…` sleeps for the sum of its intervals. A number is read as C
reads a floating-point number (`2`, `0.5`, `1e-3`, `0x10`, `inf`), and a suffix `s`,
`m`, `h` or `d` scales it to seconds. A negative or unreadable interval, or one that
is not a number, is a mistake reported for each such operand; nothing is slept then.
An argument that starts with a dash is an option, and `sleep` has none.

## Main definitions

* `interval?` — the seconds of one operand
* `runSleep` — the `sleep` utility
-/

namespace IacLint.Tools

open IacLint.Host

/-- The seconds of one operand of `sleep`, if it is an interval. -/
def interval? (a : String) : Option Float :=
  let cs := a.toList
  let (x, n) := readCFloat cs
  if n = 0 then none
  else
    let scale : Option Float := match cs.drop n with
      | [] => some 1
      | ['s'] => some 1
      | ['m'] => some 60
      | ['h'] => some 3600
      | ['d'] => some 86400
      | _ => none
    scale.bind fun k => if x.isNaN || x < 0 then none else some (x * k)

/-- `sleep` run as `name`. -/
def runSleep (name : String) (args : List String) : Completed :=
  let spec : OptionSpec := { longs := [("help", "help", false), ("version", "version", false)] }
  match readOptions spec args with
  | .error m => complaint (usageLines name m)
  | .ok (_, ops) =>
    if ops.isEmpty then complaint (usageLines name "missing operand")
    else
      let bad := ops.filter fun a => (interval? a).isNone
      if bad.isEmpty then { slept := ops.foldl (fun acc a => acc + (interval? a).getD 0) 0 }
      else
        let run := bad.foldl (fun (c : Completed) a => c.warn (name ++ ": invalid time interval '" ++ a ++ "'")) {}
        { run.warn ("Try '" ++ name ++ " --help' for more information.") with status := 1 }

end IacLint.Tools
