import IacLint.Shell.State
import IacLint.Shell.Getopts
import IacLint.Shell.Parse
import IacLint.Host.Test
import IacLint.Tools.Echo

/-!
# Built-in commands

The commands a shell runs itself, each a change of the shell's state: `echo`,
`printf`, `test` and `[`, `read`, `set`, `shift`, `export`, `readonly`, `unset`,
`local`, `cd`, `pwd`, `exit`, `return`, `break`, `continue`, `trap`, `true`, `false`,
`:` and the commands that only answer questions, `type` and `command -v`.

The *special* built-ins of POSIX (`exit`, `set`, `shift`, `export`, …) end a
non-interactive POSIX shell when they fail.

## Main definitions

* `specialBuiltins`, `regularBuiltins` — the built-in commands by kind
* `Session.runBuiltin?` — runs a built-in command that needs no other command
* `readLine` — the next line `read` takes from an input
-/

namespace IacLint.Shell

open IacLint.Host IacLint.Files IacLint.Text IacLint.Tools

/-- The special built-in commands. -/
def specialBuiltins : List String :=
  [":", ".", "break", "continue", "eval", "exec", "exit", "export", "readonly", "return", "set",
    "shift", "times", "trap", "unset"]

/-- The other built-in commands of a dialect. -/
def regularBuiltins (d : Dialect) : List String :=
  ["[", "alias", "cd", "command", "echo", "false", "getopts", "hash", "jobs", "kill", "local",
    "printf", "pwd", "read", "test", "true", "type", "ulimit", "umask", "unalias", "wait"] ++
  (match d with
    | .bash => ["source", "let", "declare", "typeset", "shopt"]
    | .posix => [])

/-- Whether a name is a built-in command of a dialect. -/
def isBuiltin (d : Dialect) (name : String) : Bool :=
  specialBuiltins.contains name || (regularBuiltins d).contains name

namespace Session

/-- Records what a command gave: its output and errors on descriptors 1 and 2, its
status, the time it slept, the file tree and what is left of the input. -/
def record (sh : Session) (c : Completed) : Session :=
  let sh := match c.tree with
    | some t => { sh with tree := t }
    | none => sh
  let sh := c.writes.foldl (fun sh (ch, bs) => sh.write (if ch == .out then 1 else 2) bs) sh
  let sh := { sh with status := c.status, slept := sh.slept + c.slept }
  match c.leftover with
  | some i => { sh with stdin := i }
  | none => sh

/-- A complaint by a built-in command and its status: the POSIX shell's special built-ins
end the shell. -/
def builtinFailure (sh : Session) (name message : String) (status : Nat) (special : Bool) : Session :=
  let sh := sh.complain (name ++ ": " ++ message)
  if special && sh.dialect == .posix then { sh with status := 2, flow := .exiting }
  else { sh with status }

/-- Sets a variable, refusing one that may not change. -/
def assign (sh : Session) (name value : String) : Session :=
  if sh.isReadonly name then
    match sh.dialect with
    | .posix => sh.fatal (name ++ ": is read only")
    | .bash => { sh.complain (name ++ ": readonly variable") with status := 1 }
  else sh.setVar name value

/-- `exit`: ends the shell with the given status (modulo 256), or the last one. -/
def exitWith (sh : Session) (args : List String) : Session :=
  match args with
  | [] => { sh with flow := .exiting }
  | a :: _ =>
    match a.toNat? with
    | some n => { sh with status := n % 256, flow := .exiting }
    | none =>
      match sh.dialect with
      | .posix => sh.fatal ("exit: Illegal number: " ++ a)
      | .bash =>
        { (sh.complain ("exit: " ++ a ++ ": numeric argument required")) with
            status := 2, flow := .exiting }

/-- `return`: leaves the function with the given status, or the last one. -/
def returnWith (sh : Session) (args : List String) : Session :=
  let status := match args with
    | a :: _ => (a.toInt?.map fun v => (v % 256).toNat).getD sh.status
    | [] => sh.status
  if sh.locals.isEmpty && sh.dialect == .bash then
    { (sh.complain "return: can only `return' from a function or sourced script") with status := 1 }
  else if sh.locals.isEmpty then { sh with status, flow := .exiting }
  else { sh with status, flow := .returning }

/-- `break` and `continue`: leave (or go on with) the innermost loops. -/
def loopControl (sh : Session) (continuing : Bool) (args : List String) : Session :=
  let n := match args with
    | a :: _ => (a.toNat?.getD 1)
    | [] => 1
  if sh.loops = 0 || n = 0 then { sh with status := 0 }
  else
    let n := min n sh.loops
    { sh with status := 0, flow := if continuing then .continuing n else .breaking n }

/-- `shift`: drops positional parameters. -/
def shiftArgs (sh : Session) (args : List String) : Session :=
  let tooMany : Session := match sh.dialect with
    | .posix => sh.builtinFailure "shift" "can't shift that many" 2 true
    | .bash => { sh with status := 1 }
  match args with
  | [] => if sh.args.isEmpty then tooMany else { sh with args := sh.args.drop 1, status := 0 }
  | a :: _ =>
    match a.toNat? with
    | some n => if n > sh.args.length then tooMany else { sh with args := sh.args.drop n, status := 0 }
    | none =>
      match sh.dialect with
      | .posix => sh.builtinFailure "shift" ("Illegal number: " ++ a) 2 true
      | .bash => sh.builtinFailure "shift" (a ++ ": numeric argument required") 1 false

/-- The option names of `set -o`; `pipefail` is the larger shell's. -/
def optionNamed (bash : Bool) (o : Options) (name : String) (on : Bool) : Option Options :=
  match name with
  | "errexit" => some { o with errexit := on }
  | "nounset" => some { o with nounset := on }
  | "xtrace" => some { o with xtrace := on }
  | "noglob" => some { o with noglob := on }
  | "noclobber" => some { o with noclobber := on }
  | "noexec" => some { o with noexec := on }
  | "pipefail" => if bash then some { o with pipefail := on } else none
  | "verbose" => some (o.toggle 'v' on)
  | "allexport" => some (o.toggle 'a' on)
  | _ => none

/-- The option a letter of `set` stands for. -/
def optionLetter (o : Options) (c : Char) (on : Bool) : Option Options :=
  match c with
  | 'e' => some { o with errexit := on }
  | 'u' => some { o with nounset := on }
  | 'x' => some { o with xtrace := on }
  | 'f' => some { o with noglob := on }
  | 'C' => some { o with noclobber := on }
  | 'n' => some { o with noexec := on }
  | 'v' | 'a' | 'b' | 'h' | 'm' | 'B' => some (o.toggle c on)
  | _ => none

/-- `set`: options (`-e`, `+x`, `-o name`, …) and then the positional parameters. -/
def setCommand (sh : Session) (args : List String) : Session :=
  go (args.length + 1) sh args
where
  /-- Reads the options, then the new parameters. -/
  go : Nat → Session → List String → Session
    | 0, sh, _ => sh
    | _ + 1, sh, [] => { sh with status := 0 }
    | fuel + 1, sh, a :: rest =>
      if a == "--" then { sh with args := rest, status := 0 }
      else
        match a.toList with
        | sign :: letters@(_ :: _) =>
          if sign = '-' || sign = '+' then
            let on := sign = '-'
            if letters == ['o'] then
              match rest with
              | name :: more =>
                match optionNamed (sh.dialect == .bash) sh.opts name on with
                | some o => go fuel { sh with opts := o } more
                | none =>
                  match sh.dialect with
                  | .posix => sh.builtinFailure "set" ("Illegal option " ++ a ++ " " ++ name) 2 true
                  | .bash => sh.builtinFailure "set" (name ++ ": invalid option name") 1 false
              | [] => { sh with status := 0 }
            else
              match letters.foldlM (fun o c => optionLetter o c on) sh.opts with
              | some o => go fuel { sh with opts := o } rest
              | none =>
                let bad := (letters.find? fun c => (optionLetter sh.opts c on).isNone).getD '?'
                match sh.dialect with
                | .posix => sh.builtinFailure "set" ("Illegal option " ++ String.ofList [sign, bad]) 2 true
                | .bash => sh.builtinFailure "set" (String.ofList [sign, bad] ++ ": invalid option") 2 false
          else { sh with args := a :: rest, status := 0 }
        | _ => { sh with args := a :: rest, status := 0 }

/-- `export` and `readonly`: marks variables, setting those given a value. -/
def declareVars (sh : Session) (readonly : Bool) (args : List String) : Session :=
  let cmd := if readonly then "readonly" else "export"
  args.foldl (fun sh a =>
    if !sh.running then sh
    else
      let name := String.ofList (a.toList.takeWhile (· ≠ '='))
      let value : Option String :=
        if name.length < a.length then some (String.ofList (a.toList.drop (name.length + 1))) else none
      if a == "-p" then sh
      else if !isName name then sh.builtinFailure cmd (name ++ ": bad variable name") 1 true
      else
        match value with
        | some v =>
          if sh.isReadonly name then sh.fatal (name ++ ": is read only")
          else
            let old := (sh.vars.lookup name).getD { value := none }
            sh.putVar name { old with value := some v, exported := old.exported || !readonly,
                                      readonly := old.readonly || readonly }
        | none =>
          let old := (sh.vars.lookup name).getD { value := none }
          sh.putVar name { old with exported := old.exported || !readonly,
                                    readonly := old.readonly || readonly }) { sh with status := 0 }

/-- `unset`: removes variables (or functions with `-f`). -/
def unsetNames (sh : Session) (args : List String) : Session :=
  let (functions, names) := match args with
    | "-f" :: rest => (true, rest)
    | "-v" :: rest => (false, rest)
    | rest => (false, rest)
  names.foldl (fun sh n =>
    if !sh.running then sh
    else if functions then { sh with funcs := sh.funcs.filter (·.1 != n) }
    else if sh.isReadonly n then sh.builtinFailure "unset" (n ++ ": is read only") 1 true
    else sh.unsetVar n) { sh with status := 0 }

/-- `local`: makes variables local to the function being run, saving their values to
be restored when it returns. -/
def localVars (sh : Session) (args : List String) : Session :=
  match sh.locals with
  | [] =>
    match sh.dialect with
    | .posix => sh.fatal "local: not in a function"
    | .bash => { (sh.complain "local: can only be used in a function") with status := 1 }
  | frame :: outer =>
    let (sh, frame) := args.foldl (fun (acc : Session × List (String × Option Var)) a =>
      let (sh, frame) := acc
      let name := String.ofList (a.toList.takeWhile (· ≠ '='))
      let value : Option String :=
        if name.length < a.length then some (String.ofList (a.toList.drop (name.length + 1))) else none
      let frame := if frame.any (·.1 == name) then frame else (name, sh.vars.lookup name) :: frame
      let sh := match value with
        | some v => sh.setVar name v
        | none => if sh.dialect == .bash then sh.putVar name { value := none } else sh
      (sh, frame)) (sh, frame)
    { sh with locals := frame :: outer, status := 0 }

/-- Restores the variables made local in the innermost function call. -/
def popLocals (sh : Session) : Session :=
  match sh.locals with
  | [] => sh
  | frame :: outer =>
    let sh := frame.foldl (fun sh (name, saved) =>
      match saved with
      | some v => sh.putVar name v
      | none => sh.unsetVar name) sh
    { sh with locals := outer }

/-- The normal form of a path below the top, as the working directory keeps it. -/
def directoryPath (cwd p : String) : String :=
  let parts := (Text.splitOnChar (if p.startsWith "/" || cwd.isEmpty then p else cwd ++ "/" ++ p) '/')
  let kept := parts.foldl (fun acc part =>
    if part.isEmpty || part == "." then acc
    else if part == ".." then acc.dropLast
    else acc ++ [part]) []
  "/".intercalate kept

/-- `cd`: changes the working directory. -/
def changeDir (sh : Session) (args : List String) : Session :=
  match args with
  | [] => { sh with status := 0 }
  | d :: _ =>
    let target := if d == "-" then "" else d
    match sh.tree.stat (if target.startsWith "/" || sh.cwd.isEmpty then target else sh.cwd ++ "/" ++ target) with
    | .ok (_, .dir) => { sh with cwd := directoryPath sh.cwd target, status := 0 }
    | result =>
      match sh.dialect with
      | .posix => sh.builtinFailure "cd" ("can't cd to " ++ d) 2 false
      | .bash =>
        let why := match result with
          | .error e => e.text
          | _ => "Not a directory"
        sh.builtinFailure "cd" (d ++ ": " ++ why) 1 false

/-- `printf`: formats its arguments; the larger shell's `-v NAME` assigns the output to
a variable instead. Complaints come before the output, which is written at the end. -/
def printfCommand (sh : Session) (args : List String) : Session :=
  let kind := if sh.dialect == .bash then PrintfKind.bashShell else .posixShell
  let args := match args with
    | "--" :: rest => rest
    | _ => args
  let (target, args) : Option String × List String := match sh.dialect, args with
    | .bash, "-v" :: name :: rest => (some name, rest)
    | _, _ => (none, args)
  match args with
  | [] =>
    match sh.dialect with
    | .posix => { sh.complain "printf: usage: printf format [arg ...]" with status := 2 }
    | .bash => { sh.write 2 (encode "printf: usage: printf [-v var] format [arguments]\n") with status := 2 }
  | fmt :: rest =>
    let p := formatOutput kind fmt rest
    let sh := p.complaints.foldl (fun sh m => sh.complain ("printf: " ++ m)) sh
    let sh := match target with
      | some name => sh.assign name (decodeLossy p.bytes)
      | none => sh.write 1 p.bytes
    { sh with status := if sh.running then p.status else sh.status }

/-- The line `read` takes from some bytes: the bytes of the line (without its line
feed), whether a line feed ended it, and the bytes after it. -/
def readLine (bs : List UInt8) : List UInt8 × Bool × List UInt8 :=
  let line := bs.takeWhile (· != 10)
  if line.length < bs.length then (line, true, bs.drop (line.length + 1)) else (line, false, [])

/-- The characters of a line read without `-r`: a backslash keeps the next character
from splitting (and is dropped), and a backslash at the end of a line joins the next.
Each character is marked as escaped or not. -/
def unescapeRead : List Char → List (Char × Bool)
  | '\\' :: c :: rest => (c, true) :: unescapeRead rest
  | ['\\'] => []
  | c :: rest => (c, false) :: unescapeRead rest
  | [] => []

/-- Assigns the fields of a line to names as `read` does: each name but the last takes
one field cut at `IFS`; the last takes the rest of the line without the `IFS` blanks
around it. -/
def splitRead (ifs : String) (cs : List (Char × Bool)) (names : List String) : List (String × String) :=
  let delims := ifs.toList
  let isDelim (x : Char × Bool) : Bool := !x.2 && delims.contains x.1
  let isBlankDelim (x : Char × Bool) : Bool := isDelim x && isIfsBlank x.1
  let rec go : List String → List (Char × Bool) → List (String × String)
    | [], _ => []
    | [last], rest =>
      let rest := rest.dropWhile isBlankDelim
      let rest := (rest.reverse.dropWhile isBlankDelim).reverse
      [(last, String.ofList (rest.map (·.1)))]
    | n :: more, rest =>
      let rest := rest.dropWhile isBlankDelim
      let field := rest.takeWhile fun x => !isDelim x
      let after := rest.drop field.length
      -- one delimiter ends the field, with the blanks around it
      let after := after.dropWhile isBlankDelim
      let after := match after with
        | x :: tail => if isDelim x && !isIfsBlank x.1 then tail else after
        | [] => []
      (n, String.ofList (field.map (·.1))) :: go more after
  go names cs

/-- `read`: takes a line from the input and assigns its fields; fails at the end of the
input. -/
def readCommand (sh : Session) (args : List String) : Session :=
  let (raw, names) := (args.contains "-r", args.filter (· != "-r"))
  let names := if names.isEmpty && sh.dialect == .bash then ["REPLY"] else names
  if names.isEmpty then sh.builtinFailure "read" "arg count" 2 false
  else
    -- lines joined by a backslash at their end, unless raw
    let rec take : Nat → List UInt8 → List UInt8 × Bool × List UInt8
      | 0, bs => readLine bs
      | n + 1, bs =>
        let (line, ended, rest) := readLine bs
        if !raw && ended && line.getLast? == some 92 then
          let (more, e, r) := take n rest
          (line.dropLast ++ more, e, r)
        else (line, ended, rest)
    let (line, ended, rest) := take sh.stdin.bytes.length sh.stdin.bytes
    let chars := (decodeLossy line).toList
    let marked := if raw then chars.map (·, false) else unescapeRead chars
    let assigned := if names == ["REPLY"] && sh.dialect == .bash then
        [("REPLY", String.ofList (marked.map (·.1)))]
      else splitRead sh.ifs marked names
    let sh := assigned.foldl (fun sh (n, v) => sh.assign n v) sh
    let status := if ended then 0 else 1
    { sh with stdin := { sh.stdin with bytes := rest }, status }

/-- `trap`: the commands to run when the shell ends (`EXIT` or `0`); other conditions are
accepted and never happen here. -/
def trapCommand (sh : Session) (args : List String) : Session :=
  match args with
  | action :: conds =>
    if conds.any (fun c => c == "EXIT" || c == "0") then
      { sh with exitTrap := if action == "-" || action.isEmpty then none else some action, status := 0 }
    else { sh with status := 0 }
  | [] => { sh with status := 0 }

/-- `test` and `[`: the truth of a condition as status 0 or 1, or 2 with a complaint. -/
def testCommand (sh : Session) (name : String) (args : List String) : Session :=
  let ctx := sh.context [] sh.stdin
  let operands : Except TestError (List String) :=
    if name == "[" then (if args.getLast? == some "]" then .ok args.dropLast else .error .missingBracket)
    else .ok args
  match operands.bind (evalTest ctx) with
  | .ok b => { sh with status := if b then 0 else 1 }
  | .error e =>
    let message := match sh.dialect with
      | .posix => e.posixMessage name
      | .bash => e.bashMessage name (match operands with | .ok ws => ws | .error _ => args)
    { sh.complain message with status := 2 }

/-- Where `type` and `command -v` find a program: the path of a system program. -/
def programPath (name : String) (programs : List String) : Option String :=
  if programs.contains name then some ("/usr/bin/" ++ name) else none

/-- `type`: how each name would be run. -/
def typeCommand (sh : Session) (programs : List String) (args : List String) : Session :=
  args.foldl (fun sh n =>
    if sh.funcs.any (·.1 == n) then { sh.write 1 (encode (n ++ " is a shell function\n")) with status := sh.status }
    else if specialBuiltins.contains n && sh.dialect == .posix then
      sh.write 1 (encode (n ++ " is a special shell builtin\n"))
    else if isBuiltin sh.dialect n then sh.write 1 (encode (n ++ " is a shell builtin\n"))
    else if reservedWords.contains n then sh.write 1 (encode (n ++ " is a shell keyword\n"))
    else
      match programPath n programs with
      | some p => sh.write 1 (encode (n ++ " is " ++ p ++ "\n"))
      | none =>
        match sh.dialect with
        | .posix => { sh.write 1 (encode (n ++ ": not found\n")) with status := 127 }
        | .bash => { sh.complain ("type: " ++ n ++ ": not found") with status := 1 })
    { sh with status := 0 }

/-- `command -v`: the path or name each command would be run by. The POSIX shell
answers for the first name only. -/
def commandV (sh : Session) (programs : List String) (names : List String) : Session :=
  let names := if sh.dialect == .posix then names.take 1 else names
  names.foldl (fun sh n =>
    if sh.funcs.any (·.1 == n) || isBuiltin sh.dialect n || reservedWords.contains n then
      sh.write 1 (encode (n ++ "\n"))
    else
      match programPath n programs with
      | some p => sh.write 1 (encode (p ++ "\n"))
      | none => { sh with status := if sh.dialect == .posix then 127 else 1 }) { sh with status := 0 }

/-- The permissions a mask leaves to one class of users, as `umask -S` writes them. -/
def permissionLetters (bits : Nat) : String :=
  (if bits / 4 % 2 == 1 then "r" else "") ++ (if bits / 2 % 2 == 1 then "w" else "") ++
    (if bits % 2 == 1 then "x" else "")

/-- `umask`: writes the mask in four octal digits, or as the permissions it leaves
(`-S`), or sets it from octal digits. -/
def umaskCommand (sh : Session) (args : List String) : Session :=
  let m := sh.fileMask
  let octal := String.ofList ((Nat.toDigits 8 m).reverse ++ List.replicate 4 '0' |>.take 4 |>.reverse)
  match args with
  | [] => { sh.write 1 (encode (octal ++ "\n")) with status := 0 }
  | ["-S"] =>
    let left := 511 - m
    let text := "u=" ++ permissionLetters (left / 64) ++ ",g=" ++ permissionLetters (left / 8 % 8) ++
      ",o=" ++ permissionLetters (left % 8)
    { sh.write 1 (encode (text ++ "\n")) with status := 0 }
  | a :: _ =>
    if !a.isEmpty && a.all (fun c => '0' ≤ c && c ≤ '7') then
      { sh with fileMask := (a.toList.foldl (fun acc c => acc * 8 + (c.toNat - 48)) 0) % 512, status := 0 }
    else
      match sh.dialect with
      | .posix => { sh.complain ("umask: Illegal mode: " ++ a) with status := 2 }
      | .bash => { sh with status := 1 }

/-- `getopts OPTSTRING NAME [ARG…]`: reads the next option, see `posixStep` and
`bashStep`. -/
def getoptsCommand (sh : Session) (args : List String) : Session :=
  match args with
  | spec :: name :: given =>
    let step := match sh.dialect with
      | .posix => posixStep spec.toList (if given.isEmpty then sh.args else given) sh.getoptsIndex sh.getoptsPlace
      | .bash => bashStep spec.toList (sh.name :: (if given.isEmpty then sh.args else given))
          sh.getoptsIndex sh.getoptsPlace
    let sh := match step.complaint with
      | some m => sh.write 2 (encode (m ++ "\n"))
      | none => sh
    let sh := match step.optarg with
      | some (some v) => sh.setVar "OPTARG" v
      | some none => sh.unsetVar "OPTARG"
      | none => sh
    let sh := (sh.setVar "OPTIND" (toString step.index)).setVar name (String.ofList [step.letter])
    { sh with getoptsIndex := step.index, getoptsPlace := step.place, status := if step.done then 1 else 0 }
  | _ =>
    match sh.dialect with
    | .posix => { sh.complain "getopts: Usage: getopts optstring var [arg...]" with status := 2 }
    | .bash => { sh.write 2 (encode "getopts: usage: getopts optstring name [arg ...]\n") with status := 2 }

/-- Runs a built-in command that needs no other command: the new state, or nothing
when `name` is not such a built-in. `programs` are the names of the system's programs. -/
def runBuiltin? (sh : Session) (programs : List String) (name : String) (args : List String) :
    Option Session :=
  match name with
  | ":" | "true" => some { sh with status := 0 }
  | "false" => some { sh with status := 1 }
  | "echo" =>
    let k := if sh.dialect == .bash then EchoKind.bashShell else .posixShell
    some { sh.write 1 (echoOutput k args) with status := 0 }
  | "printf" => some (sh.printfCommand args)
  | "test" | "[" => some (sh.testCommand name args)
  | "exit" => some (sh.exitWith args)
  | "return" => some (sh.returnWith args)
  | "break" => some (sh.loopControl false args)
  | "continue" => some (sh.loopControl true args)
  | "shift" => some (sh.shiftArgs args)
  | "set" => some (sh.setCommand args)
  | "export" => some (sh.declareVars false args)
  | "readonly" => some (sh.declareVars true args)
  | "unset" => some (sh.unsetNames args)
  | "local" => some (sh.localVars args)
  | "cd" => some (sh.changeDir args)
  | "pwd" => some { sh.write 1 (encode ("/" ++ sh.cwd ++ "\n")) with status := 0 }
  | "read" => some (sh.readCommand args)
  | "trap" => some (sh.trapCommand args)
  | "type" => some (sh.typeCommand programs args)
  | "getopts" => some (sh.getoptsCommand args)
  | "umask" => some (sh.umaskCommand args)
  | "wait" | "ulimit" | "hash" | "times" | "alias" | "unalias" | "jobs" | "shopt" =>
    some { sh with status := 0 }
  | _ => none

end Session

end IacLint.Shell
