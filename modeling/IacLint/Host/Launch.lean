import IacLint.Shell.Run
import IacLint.Tools.Table

/-!
# Starting programs

A program is named either by a bare name, looked up among the programs of the system,
or by a path with a slash. The programs of the system are the standard utilities,
the shells `sh`, `dash` and `bash`, and `env`; they are also found under `/bin` and
`/usr/bin`. Any other path names a file of the tree. A file is run when it is
executable and starts with `#!`: the rest of that line names an interpreter by its
path, and may give it one argument; the interpreter is then run with that argument, the
file's path and the arguments.

A shell takes options before its script (`-e`, `-u`, `-x`, `-f`, `-C`, `+` to turn
one off) and `-c TEXT` to run a text instead; with neither a script nor `-c` it reads
its script from its input. `env` takes `-i` (an empty environment), `-u NAME` and
assignments, then runs the program named next as a bare name is found, or writes the
environment when none is named.

Starting fails as the system's `exec` does: a missing name or file, or a missing
interpreter, is *not found*; a directory or a file without the executable bit is
refused with *permission denied*; an executable file without `#!` is refused with
*exec format error*; a path through a file or around a loop of links is refused as
resolving it fails.

## Main definitions

* `systemProgram?` — the system program a path names
* `splitInterpreter` — the interpreter of a `#!` line and its argument
* `launchWith`, `launch` — run a program by name or path with arguments
-/

namespace IacLint.Host

open IacLint.Files IacLint.Text IacLint.Shell IacLint.Tools

/-- The shell a name stands for. -/
def shellDialect? : String → Option Dialect
  | "sh" | "dash" => some .posix
  | "bash" => some .bash
  | _ => none

/-- The names of the programs of the system. -/
def systemNames : List String := utilityNames ++ ["sh", "dash", "bash", "env"]

/-- Whether a name is a program of the system. -/
def isSystemProgram (name : String) : Bool := systemNames.contains name

/-- The system program a path names: a program of the system under `/bin` or
`/usr/bin`. -/
def systemProgram? (path : String) : Option String :=
  let name? :=
    if path.startsWith "/usr/bin/" then some (String.ofList (path.toList.drop 9))
    else if path.startsWith "/bin/" then some (String.ofList (path.toList.drop 5))
    else none
  name?.bind fun n => if isSystemProgram n then some n else none

/-- Whether a character is a blank of an interpreter line. -/
def isLineBlank (c : Char) : Bool := c == ' ' || c == '\t'

/-- The interpreter line of a file: what follows `#!` on its first line, without the
blanks at its end. -/
def interpreterLine? (bs : List UInt8) : Option String :=
  match bs with
  | 35 :: 33 :: rest =>
    let line := decodeLossy (rest.takeWhile (· != 10))
    some (String.ofList (line.toList.reverse.dropWhile isLineBlank).reverse)
  | _ => none

/-- The interpreter an interpreter line names, and the one argument the rest of the
line gives, if any. -/
def splitInterpreter (line : String) : String × Option String :=
  let cs := line.toList.dropWhile isLineBlank
  let prog := cs.takeWhile fun c => !isLineBlank c
  let rest := (cs.drop prog.length).dropWhile isLineBlank
  (String.ofList prog, if rest.isEmpty then none else some (String.ofList rest))

/-- The options a shell is given before its script: the options they set, the text of
`-c` if given, and the arguments after them. -/
def shellOptions (opts : Options) : List String → Options × Option String × List String
  | "--" :: rest => (opts, none, rest)
  | "-" :: rest => (opts, none, rest)
  | a :: rest =>
    match a.toList with
    | sign :: letters@(_ :: _) =>
      if sign = '-' || sign = '+' then
        let on := sign = '-'
        let opts := letters.foldl (fun o c => (Session.optionLetter o c on).getD o) opts
        if letters.contains 'c' && on then
          match rest with
          | text :: more => (opts, some text, more)
          | [] => (opts, none, [])
        else shellOptions opts rest
      else (opts, none, a :: rest)
    | _ => (opts, none, a :: rest)
  | [] => (opts, none, [])

/-- How the POSIX shell words a file it cannot open: a missing file or directory is
`No such file`, other failures as the system words them. -/
def openFailureText (e : Errno) : String :=
  if e == .noEntry || e == .notDir then "No such file" else e.text

/-- The steps of nested starts a run may take. -/
def launchFuel : Nat := 16

/-- The seconds of a run that never ends: infinity. -/
def endless : Float := 1 / 0

/-- The environment `env` gives its program: its options and assignments applied, and
the arguments after them. -/
def envArgs (env : List (String × String)) : Nat → List String → Except String (List (String × String) × List String)
  | 0, args => .ok (env, args)
  | _ + 1, [] => .ok (env, [])
  | fuel + 1, a :: rest =>
    if a == "-i" || a == "-" || a == "--ignore-environment" then envArgs [] fuel rest
    else if a == "--" then .ok (env, rest)
    else if a == "-u" then
      match rest with
      | name :: more => envArgs (env.filter (·.1 != name)) fuel more
      | [] => .error "option requires an argument -- 'u'"
    else if a.startsWith "-" && a.length > 1 then
      .error ("invalid option -- '" ++ String.ofList ((a.toList.drop 1).take 1) ++ "'")
    else if a.toList.contains '=' then
      let k := String.ofList (a.toList.takeWhile (· ≠ '='))
      let v := String.ofList ((a.toList.dropWhile (· ≠ '=')).drop 1)
      envArgs (env.filter (·.1 != k) ++ [(k, v)]) fuel rest
    else .ok (env, a :: rest)

/-- Runs a program in a context, or says why it cannot start. A bare name is looked up
among the system's programs when `search` holds, and is a path in the tree otherwise,
as an interpreter's name is. Starts nested deeper than the fuel, as when a script is
its own interpreter, make a run that never ends. -/
def launchWith : Nat → Bool → Context → String → List String → Except StartFailure Completed
  | 0, _, _, _, _ => .ok { slept := endless }
  | fuel + 1, search, ctx, cmd, args =>
    let sys : System := { run := launchWith fuel true, programs := systemNames }
    let runSystem (invoked name : String) : Except StartFailure Completed :=
      match runUtility ctx invoked name args with
      | some c => .ok c
      | none =>
        match shellDialect? name with
        | some d =>
          let (opts, text, rest) := shellOptions {} args
          match text, rest with
          | some source, more =>
            .ok (runScript sys d opts (more.headD invoked) source (more.drop 1) ctx)
          | none, [] =>
            let source := decodeLossy ctx.input.bytes
            .ok (runScript sys d opts invoked source [] { ctx with input := {} })
          | none, script :: scriptArgs =>
            match ctx.readBytes script with
            | .ok bs => .ok (runScript sys d opts script (decodeLossy bs) scriptArgs ctx)
            | .error e =>
              match d with
              | .posix =>
                .ok { complaint (invoked ++ ": 0: cannot open " ++ script ++ ": " ++ openFailureText e.errno)
                      with status := 2 }
              | .bash =>
                .ok { complaint (invoked ++ ": " ++ script ++ ": " ++ e.errno.text) with status := 127 }
        | none =>
          match envArgs ctx.env (args.length + 1) args with
          | .error m => .ok { complaint (usageLines invoked m) with status := 125 }
          | .ok (env, []) =>
            .ok (Completed.ofOutput (encode (String.join (env.map fun (k, v) => k ++ "=" ++ v ++ "\n"))))
          | .ok (env, prog :: progArgs) =>
            match launchWith fuel true { ctx with env } prog progArgs with
            | .ok c => .ok c
            | .error .notFound =>
              .ok { complaint (invoked ++ ": '" ++ prog ++ "': No such file or directory") with status := 127 }
            | .error (.refused e) =>
              .ok { complaint (invoked ++ ": '" ++ prog ++ "': " ++ e.errno.text) with status := 126 }
    if search && !cmd.toList.contains '/' then
      if isSystemProgram cmd then runSystem cmd cmd else .error .notFound
    else
      match systemProgram? cmd with
      | some name => runSystem cmd name
      | none =>
        match ctx.stat cmd with
        | .error .noEntry => .error .notFound
        | .error e => .error (.refused ⟨e, cmd⟩)
        | .ok (_, .file bs executable) =>
          if !executable then .error (.refused ⟨.access, cmd⟩)
          else
            match interpreterLine? bs with
            | some line =>
              let (interp, arg) := splitInterpreter line
              launchWith fuel false ctx interp (arg.toList ++ cmd :: args)
            | none => .error (.refused ⟨.noExec, cmd⟩)
        | .ok _ => .error (.refused ⟨.access, cmd⟩)

/-- The environment programs start with. -/
def startEnvironment : List (String × String) :=
  [("PATH", "/usr/local/sbin:/usr/local/bin:/usr/sbin:/usr/bin:/sbin:/bin")]

/-- Runs a program by name or path with arguments in the tree, with nothing to read, or
says why it cannot start. -/
def launch (t : Tree) (fuel : Nat) (cmd : String) (args : List String) : Except StartFailure Completed :=
  launchWith fuel true { tree := t, env := startEnvironment } cmd args

end IacLint.Host
