import IacLint.Shell.Builtin
import IacLint.Shell.Arith
import IacLint.Shell.Words
import IacLint.Text.Regex

/-!
# Running shell scripts

A script runs one command line at a time: a line is read, then run, so the lines
before a syntax error have run when it is found, and the error ends the shell. Each
command expands its words when it runs:

* parameters (`$name`, `${name…}` with its operators), command substitutions and
  arithmetic, in order from left to right;
* the results of unquoted expansions are cut into fields at `IFS` and matched against
  file names; `"$@"` gives a field for each argument;
* assignments and redirections are expanded without cutting.

A simple command runs a special built-in, a function, a built-in, or a program found
by the system, in that order (the larger shell puts functions first). Assignments
before a special built-in stay; before anything else they hold for that command
only, and reach programs as their environment. A pipeline runs each of its commands
in a copy of the shell, the output of one being the input of the next, and so do
command substitutions and `( … )`; their changes to variables are lost, their changes
to files are not.

Under `-e` a failing command ends the shell, unless it is part of a condition: the
condition of `if`, `while` or `until`, a command before `&&` or `||`, or after `!`.

Every command spends one unit of the shell's budget; a run that exhausts it never
ends. The fuel of each definition bounds the nesting of commands and the rounds of
loops.

## Main definitions

* `System` — what the shell needs of the system it runs on
* `runText` — runs the lines of a text
* `runScript` — runs a script as a program
-/

namespace IacLint.Shell

open IacLint.Host IacLint.Files IacLint.Text IacLint.Tools

/-- What a shell needs of the system it runs on: a way to run programs, and the names
a search for a program finds. -/
structure System where
  run : Runner
  programs : List String

/-- Running commands in a shell. -/
abbrev ShellM := StateM Session

/-- The state a redirection list changes, to be restored after the command. -/
structure Saved where
  fds : List (Nat × Target)
  stdin : Input
  stdinRedirected : Bool

namespace Session

/-- Ends the run as one that never ends. -/
def exhaust (sh : Session) : Session := { sh with endless := true, flow := .exiting }

/-- A failed expansion: the POSIX shell ends with status 2, the larger shell drops the
rest of the line with `status` (unless `fatalInBash`, which ends it too). -/
def expansionFailure (sh : Session) (message : String) (status : Nat) (fatalInBash : Bool) : Session :=
  match sh.dialect with
  | .posix => sh.fatal message
  | .bash =>
    if fatalInBash then { sh.complain message with status, flow := .exiting }
    else { sh.complain message with status, flow := .aborted }

/-- Under `-e`, ends the shell when the last command failed outside a condition. -/
def checkErrexit (sh : Session) : Session :=
  if sh.opts.errexit && sh.guard == 0 && sh.status != 0 && sh.flow == .normal then
    { sh with flow := .exiting }
  else sh

/-- The value of a parameter as it is expanded: `LINENO` of the larger shell is the
line of the command. -/
def paramValue (sh : Session) (name : String) : Option String :=
  if name == "LINENO" && sh.dialect == .bash && (sh.getVar? name).isNone then some (toString sh.line)
  else sh.param? name

/-- The pieces of a value: quoted, or to be cut into fields. -/
def valuePieces (quoted : Bool) (v : String) : List Piece :=
  if quoted then .mark :: piecesOf v true false else piecesOf v false true

/-- The pieces of the positional parameters as `$@` or `$*` give them. Quoted `"$@"`
gives a field for each; quoted `"$*"` joins them with the first character of `IFS`.
Unquoted, the POSIX shell cuts each apart and drops empty ones; the larger shell joins
them with the first character of `IFS` before cutting. -/
def argsPieces (sh : Session) (name : String) (quoted : Bool) : List Piece :=
  let sep := sh.ifs.toList.head?
  if quoted then
    if name == "@" then
      (sh.args.zipIdx.map fun (a, i) => (if i = 0 then [] else [Piece.boundary]) ++ .mark :: piecesOf a true false).flatten
    else
      .mark :: piecesOf ((match sep with | some c => String.ofList [c] | none => "").intercalate sh.args) true false
  else
    match sh.dialect, sep with
    | .bash, some c =>
      (sh.args.zipIdx.map fun (a, i) =>
        (if i = 0 then [] else [Piece.char c false true]) ++ piecesOf a false true).flatten
    | _, _ => (sh.args.zipIdx.map fun (a, i) => (if i = 0 then [] else [Piece.gap]) ++ piecesOf a false true).flatten

/-- Applies the assignments of an arithmetic expansion. -/
def applyArith (sh : Session) (assigns : List (String × Int)) : Session :=
  assigns.foldl (fun sh (k, v) => sh.assign k (toString v)) sh

/-- The path in the tree of a path the shell is given. -/
def resolvePath (sh : Session) (p : String) : String :=
  if p.startsWith "/" || sh.cwd.isEmpty then p else sh.cwd ++ "/" ++ p

/-- The complaint about a file a redirection cannot create. -/
def createFailure (sh : Session) (p : String) (e : Errno) : String :=
  match sh.dialect with
  | .posix =>
    let why := match e with
      | .noEntry | .notDir => "Directory nonexistent"
      | other => other.text
    "cannot create " ++ p ++ ": " ++ why
  | .bash => p ++ ": " ++ e.text

/-- The complaint about a file a redirection cannot open for reading. -/
def openFailure (sh : Session) (p : String) (e : Errno) : String :=
  match sh.dialect with
  | .posix =>
    let why := match e with
      | .noEntry | .notDir => "No such file"
      | other => other.text
    "cannot open " ++ p ++ ": " ++ why
  | .bash => p ++ ": " ++ e.text

/-- Opens a file for writing (emptied unless `append`), with the complaint when it
cannot be; the special files `/dev/null`, `/dev/stdout` and `/dev/stderr` lead where
they do. -/
def openForWriting (sh : Session) (p : String) (append : Bool) : Except String (Session × Target) :=
  if p == "/dev/null" then .ok (sh, .null)
  else if p == "/dev/stdout" then .ok (sh, (sh.fds.lookup 1).getD .closed)
  else if p == "/dev/stderr" then .ok (sh, (sh.fds.lookup 2).getD .closed)
  else
    let full := sh.resolvePath p
    match sh.tree.stat full with
    | .ok (_, .dir) => .error (sh.createFailure p .isDir)
    | .ok (_, .file _ _) =>
      if append then .ok (sh, .file full)
      else if sh.opts.noclobber then .error (sh.createFailure p .exists)
      else
        match sh.tree.writeBytes full [] with
        | .ok t => .ok ({ sh with tree := t }, .file full)
        | .error e => .error (sh.createFailure p e.errno)
    | _ =>
      match sh.tree.writeBytes full [] with
      | .ok t => .ok ({ sh with tree := t }, .file full)
      | .error e => .error (sh.createFailure p e.errno)

/-- What a file gives as input, or the complaint when it cannot be read. -/
def openForReading (sh : Session) (p : String) : Except String Input :=
  if p == "/dev/null" then .ok {}
  else if p == "/dev/stdin" then .ok sh.stdin
  else
    match sh.tree.stat (sh.resolvePath p) with
    | .ok (_, .file bs _) => .ok { bytes := bs, regular := true }
    | .ok _ => .ok { regular := true }
    | .error e => .error (sh.openFailure p e)

/-- Sets where a descriptor leads. -/
def setFd (sh : Session) (fd : Nat) (t : Target) : Session :=
  { sh with fds := (fd, t) :: sh.fds.filter (·.1 != fd) }

/-- Restores what a redirection list changed. -/
def restore (sh : Session) (saved : Saved) : Session :=
  { sh with fds := saved.fds, stdin := if saved.stdinRedirected then saved.stdin else sh.stdin }

/-- A fresh shell running a script: the environment becomes exported variables, and
the shell sets the number of the process that started it, and the search path when
the environment has none. -/
def fresh (d : Dialect) (name : String) (opts : Options) (args : List String) (ctx : Context) : Session :=
  let env := ctx.env.map fun (k, v) => (k, ({ value := some v, exported := true } : Var))
  let opts := if d == .bash then (opts.toggle 'h' true).toggle 'B' true else opts
  { dialect := d, name, opts, args, tree := ctx.tree, cwd := ctx.cwd, stdin := ctx.input,
    vars := env.filter (fun e => e.1 != "PPID" && e.1 != "OPTIND") ++
      [("PPID", { value := some "4241" }), ("OPTIND", { value := some "1" })] ++
      (if env.any (·.1 == "PATH") then []
       else [("PATH", { value := some "/usr/local/sbin:/usr/local/bin:/usr/sbin:/usr/bin:/sbin:/bin" })]) }

/-- Defines a function. -/
def define (sh : Session) (name : String) (body : Command) : Session :=
  { sh with funcs := (name, body) :: sh.funcs.filter (·.1 != name), status := 0 }

/-- The part of a copy's state the shell takes back when the copy ends: the files,
what was written and read, the time, the status and the budget. -/
def takeBack (sh done : Session) : Session :=
  { sh with tree := done.tree, output := done.output, stdin := done.stdin, slept := done.slept,
            status := done.status, budget := done.budget, endless := sh.endless || done.endless,
            flow := if done.endless then .exiting else sh.flow }

/-- The text of line `l` of a text whose first line is `start`. -/
def sourceLine (text : String) (start l : Nat) : String :=
  ((text.splitOn "\n").drop (l - start)).headD ""

/-- Reports a syntax error in a text starting at line `start`; `eval` when the text is
that of `eval`. The POSIX shell ends; the larger shell ends unless in `eval`. -/
def reportParseError (sh : Session) (e : SyntaxError) (text : String) (start : Nat) (isEval : Bool) : Session :=
  match sh.dialect with
  | .posix =>
    let line := e.line
    let pre := match sh.commandName with
      | some c => c ++ ": "
      | none => ""
    { sh.write 2 (encode (sh.name ++ ": " ++ toString line ++ ": " ++ pre ++ e.posixMessage ++ "\n")) with
        status := 2, flow := .exiting }
  | .bash =>
    let lines := e.bashLines (sourceLine text start)
    let pre := if isEval then ": eval" else ""
    let sh := lines.foldl (fun sh (l, m) =>
      sh.write 2 (encode (sh.commandName.getD sh.name ++ pre ++ ": line " ++ toString l ++ ": " ++ m ++ "\n"))) sh
    let status := match e with
      | .forVariable _ => 1
      | _ => 2
    if isEval then { sh with status } else { sh with status, flow := .exiting }

/-- Writes the trace of a command under `-x`. -/
def trace (sh : Session) (words : List String) : Session :=
  if sh.opts.xtrace then sh.write 2 (encode (traceLine sh.dialect 0 words)) else sh

end Session

/-- How the value of a parameter expansion is taken when it is unset or empty. -/
def useWord (op : ParamOp) (value : Option String) : Bool :=
  let empty := value == some ""
  match op with
  | .ifUnset c | .assignIfUnset c | .failIfUnset c => value.isNone || (c && empty)
  | .ifSet c => value.isSome && !(c && empty)
  | _ => false

/-- Whether an operator needs the value of its parameter (so that `-u` complains when it
is unset). -/
def needsValue (op : ParamOp) : Bool :=
  match op with
  | .ifUnset _ | .assignIfUnset _ | .failIfUnset _ | .ifSet _ | .invalid => false
  | _ => true

/-- Every character of pieces marked as quoted. -/
def quoteAll (ps : List Piece) : List Piece :=
  .mark :: ps.map fun p => match p with
    | .char c _ _ => .char c true false
    | other => other

mutual

/-- The pieces of word parts; `inWord` for the word of an unquoted `${…}`, whose text
is cut into fields as the result of an expansion is. -/
def expandParts (sys : System) : Nat → List Part → Bool → ShellM (Option (List Piece))
  | 0, _, _ => return none
  | _ + 1, [], _ => return some []
  | n + 1, p :: rest, inWord => do
    match ← expandPart sys n p inWord with
    | none => return none
    | some ps =>
      match ← expandParts sys n rest inWord with
      | none => return none
      | some more => return some (ps ++ more)

/-- The pieces of one part of a word. -/
def expandPart (sys : System) : Nat → Part → Bool → ShellM (Option (List Piece))
  | 0, _, _ => return none
  | n + 1, part, inWord => do
    match part with
    | .lit s => return some (piecesOf s false inWord)
    | .quoted s => return some (.mark :: piecesOf s true false)
    | .param name op word extra quoted => paramPieces sys n name op word extra quoted
    | .command text quoted start =>
      match ← substitute sys n text start with
      | none => return none
      | some s => return some (Session.valuePieces quoted s)
    | .arith parts quoted =>
      match ← expandParts sys n parts false with
      | none => return none
      | some ps =>
        let text := piecesText ps
        let sh : Session ← get
        match evaluate (sh.dialect == .bash) text (fun k => sh.getVar? k) with
        | .ok (v, assigns) =>
          set (sh.applyArith assigns)
          return some (Session.valuePieces quoted (toString v))
        | .error e =>
          match sh.dialect with
          | .posix => set (sh.fatal (e.posixMessage text)); return none
          | .bash => set (sh.expansionFailure (e.bashMessage text) 1 false); return none

/-- The pieces of a parameter expansion. -/
def paramPieces (sys : System) : Nat → String → ParamOp → Word → Word → Bool → ShellM (Option (List Piece))
  | 0, _, _, _, _, _ => return none
  | n + 1, name, op, word, extra, quoted => do
    let sh : Session ← get
    let value := sh.paramValue name
    let isArgs := name == "@" || name == "*"
    let value := if isArgs && op != .value then (if sh.args.isEmpty then none else value) else value
    if op == .invalid then
      set (sh.expansionFailure (if sh.dialect == .bash then name ++ ": bad substitution" else "Bad substitution")
        1 false)
      return none
    else if value.isNone && !isArgs && sh.opts.nounset && needsValue op then
      match sh.dialect with
      | .posix => set (sh.fatal (name ++ ": parameter not set")); return none
      | .bash => set (sh.expansionFailure (name ++ ": unbound variable") 1 true); return none
    else if useWord op value then
      match ← expandParts sys n word (!quoted) with
      | none => return none
      | some ps =>
        let ps := if quoted then quoteAll ps else ps
        match op with
        | .ifUnset _ | .ifSet _ => return some ps
        | .assignIfUnset _ =>
          let text := piecesText ps
          let cur : Session ← get
          if !isName name then
            match cur.dialect with
            | .posix =>
              if isArgs then return some (cur.argsPieces name quoted)
              else set (cur.fatal (name ++ ": bad variable name")); return none
            | .bash => set (cur.expansionFailure ("$" ++ name ++ ": cannot assign in this way") 1 true); return none
          else
            modify (·.assign name text)
            return some (Session.valuePieces quoted text)
        | _ =>
          let sh : Session ← get
          let text := piecesText ps
          let message := if !text.isEmpty then text
            else match op, sh.dialect with
              | .failIfUnset true, .posix => "parameter not set or null"
              | .failIfUnset true, .bash => "parameter null or not set"
              | _, _ => "parameter not set"
          match sh.dialect with
          | .posix => set (sh.fatal (name ++ ": " ++ message)); return none
          | .bash => set (sh.expansionFailure (name ++ ": " ++ message) 1 true); return none
    else
      let v := value.getD ""
      match op with
      | .value => return some (if isArgs then sh.argsPieces name quoted else Session.valuePieces quoted v)
      | .length =>
        let count := if isArgs && sh.dialect == .bash then sh.args.length
          else if isArgs then (" ".intercalate sh.args).length else v.length
        return some (Session.valuePieces quoted (toString count))
      | .ifUnset _ | .assignIfUnset _ | .failIfUnset _ =>
        return some (if isArgs then sh.argsPieces name quoted else Session.valuePieces quoted v)
      | .ifSet _ => return some (if quoted then [.mark] else [])
      | .dropSuffix longest | .dropPrefix longest =>
        match ← expandParts sys n word false with
        | none => return none
        | some ps =>
          let globs := compile (markedChars ps)
          let r := match op with
            | .dropSuffix _ => trimSuffix globs longest v
            | _ => trimPrefix globs longest v
          return some (Session.valuePieces quoted r)
      | .replace all anchor =>
        match ← expandParts sys n word false with
        | none => return none
        | some ps =>
          match ← expandParts sys n extra false with
          | none => return none
          | some rs =>
            return some (Session.valuePieces quoted (replacePattern (compile (markedChars ps)) all anchor (piecesText rs) v))
      | .slice counted =>
        match ← expandParts sys n word false with
        | none => return none
        | some ps =>
          match ← expandParts sys n extra false with
          | none => return none
          | some ls =>
            let sh : Session ← get
            let lookup := fun k => sh.getVar? k
            match evaluate true (piecesText ps) lookup, (if counted then evaluate true (piecesText ls) lookup else .ok (0, [])) with
            | .ok (off, _), .ok (len, _) =>
              let cs := v.toList
              let start := if off < 0 then cs.length - off.natAbs else off.toNat
              let rest := cs.drop start
              let taken := if !counted then rest
                else if len < 0 then rest.take (rest.length - len.natAbs) else rest.take len.toNat
              return some (Session.valuePieces quoted (String.ofList taken))
            | .error e, _ | _, .error e =>
              set (sh.expansionFailure (e.bashMessage (piecesText ps)) 1 false)
              return none
      | .caseMap upper all => return some (Session.valuePieces quoted (mapCase upper all v))
      | .indirect => return some (Session.valuePieces quoted ((sh.paramValue v).getD ""))
      | .invalid => return none

/-- Runs the text of a command substitution in a copy of the shell whose output is
captured: the output without its trailing line breaks. -/
def substitute (sys : System) : Nat → String → Nat → ShellM (Option String)
  | 0, _, _ => return none
  | n + 1, text, start => do
    let parent : Session ← get
    -- the POSIX shell counts the lines of the text where it stands in the script, the
    -- larger shell from the line of the command
    let start := if parent.dialect == .posix then start else parent.line
    let k := parent.streams
    let child : Session :=
      { parent with fds := (1, .stream k) :: parent.fds.filter (·.1 != 1), streams := k + 1,
                    nested := true, flow := .normal, loops := 0, exitTrap := none,
                    substitutions := 0 }
    let lexer : Lexer := { rest := text.toList, line := start, bash := parent.dialect == .bash }
    let ((), done) := (runText sys n lexer text start false false).run child
    let out := done.captured k
    let done := { done with output := done.output.filter (·.1 != k) }
    set { parent.takeBack done with substitutions := parent.substitutions + 1 }
    return some (dropTrailingBreaks (decodeLossy out))

/-- Runs the lines of a text. `top` for the script itself, where a dropped line ends;
`isEval` for the text of `eval`, whose syntax errors say so. -/
def runText (sys : System) : Nat → Lexer → String → Nat → Bool → Bool → ShellM Unit
  | 0, _, _, _, _, _ => modify Session.exhaust
  | n + 1, lexer, text, start, top, isEval => do
    let sh : Session ← get
    if !sh.running then return
    match nextLine.run lexer with
    | .error e => set (sh.reportParseError e text start isEval)
    | .ok (none, _) => return
    | .ok (some cmd, lexer') => do
      runCommand sys n cmd
      if top then modify fun sh => if sh.flow == .aborted then { sh with flow := .normal } else sh
      runText sys n lexer' text start top isEval

/-- Runs a command. -/
def runCommand (sys : System) : Nat → Command → ShellM Unit
  | 0, _ => modify Session.exhaust
  | n + 1, cmd => do
    let sh : Session ← get
    if !sh.running || sh.opts.noexec then return
    if sh.budget == 0 then
      set sh.exhaust
      return
    set { sh with budget := sh.budget - 1 }
    match cmd with
    | .simple line assigns words rs => runSimple sys n line assigns words rs
    | .pipeline negate stages => do
      if negate then modify fun sh => { sh with guard := sh.guard + 1 }
      match stages with
      | [single] => runCommand sys n single
      | _ => do
        runStages sys n stages none 0 0
        modify Session.checkErrexit
      if negate then
        modify fun sh => { sh with guard := sh.guard - 1, status := if sh.status == 0 then 1 else 0 }
    | .andOr first rest => do
      if rest.isEmpty then runCommand sys n first
      else do
        modify fun sh => { sh with guard := sh.guard + 1 }
        runCommand sys n first
        modify fun sh => { sh with guard := sh.guard - 1 }
        runAndOr sys n rest
    | .sequence items => runSequence sys n items
    | .group body rs => withRedirects sys n rs (runCommand sys n body)
    | .subshell body rs => withRedirects sys n rs (runSubshell sys n body)
    | .ifThen cond thenPart elsePart rs => withRedirects sys n rs (runIf sys n cond thenPart elsePart)
    | .loop untilLoop cond body rs => withRedirects sys n rs (runLoop sys n untilLoop cond body)
    | .forIn var items body rs => withRedirects sys n rs (runFor sys n var items body)
    | .caseOf subject arms rs => withRedirects sys n rs (runCase sys n subject arms)
    | .function name body => modify (·.define name body)
    | .test line cond => do
      modify fun sh => { sh with line }
      match ← evalCondition sys n cond with
      | some b => modify fun sh => Session.checkErrexit { sh with status := if b then 0 else 1 }
      | none => pure ()

/-- Runs the commands of a sequence one after the other. -/
def runSequence (sys : System) : Nat → List Command → ShellM Unit
  | 0, _ => modify Session.exhaust
  | _ + 1, [] => return
  | n + 1, c :: rest => do
    runCommand sys n c
    if (← getThe Session).running then runSequence sys n rest

/-- Runs the commands after `&&` and `||` as the status says; all but the last are
conditions. -/
def runAndOr (sys : System) : Nat → List (Bool × Command) → ShellM Unit
  | 0, _ => modify Session.exhaust
  | _ + 1, [] => return
  | n + 1, (isAnd, c) :: rest => do
    let sh : Session ← get
    if !sh.running then return
    if (sh.status == 0) == isAnd then
      if rest.isEmpty then runCommand sys n c
      else do
        modify fun sh => { sh with guard := sh.guard + 1 }
        runCommand sys n c
        modify fun sh => { sh with guard := sh.guard - 1 }
    runAndOr sys n rest

/-- Runs the commands of a pipeline of two or more, each in a copy of the shell: the
first reads the shell's input, each other one what the one before wrote (`piped`);
`slowest` is the longest time a command took so far. -/
def runStages (sys : System) : Nat → List Command → Option Input → Float → Nat → ShellM Unit
  | 0, _, _, _, _ => modify Session.exhaust
  | _ + 1, [], _, _, _ => return
  | n + 1, c :: rest, piped, slowest, failing => do
    let parent : Session ← get
    let last := rest.isEmpty
    let k := parent.streams
    let fds := if last then parent.fds else (1, .stream k) :: parent.fds.filter (·.1 != 1)
    let child : Session :=
      { parent with fds, stdin := piped.getD parent.stdin, streams := k + 1, nested := true,
                    flow := .normal, slept := 0, exitTrap := none, loops := 0 }
    let ((), done) := (runCommand sys n c).run child
    let took := if done.slept > slowest then done.slept else slowest
    let failing := if done.status != 0 then done.status else failing
    let status := if last && parent.opts.pipefail then failing else done.status
    set { parent with tree := done.tree, output := done.output.filter (·.1 != k), status,
                      budget := done.budget, endless := parent.endless || done.endless,
                      slept := if last then parent.slept + took else parent.slept,
                      stdin := if piped.isNone then done.stdin else parent.stdin }
    if !last then runStages sys n rest (some { bytes := done.captured k }) took failing

/-- Runs a command in a copy of the shell. -/
def runSubshell (sys : System) : Nat → Command → ShellM Unit
  | 0, _ => modify Session.exhaust
  | n + 1, body => do
    let parent : Session ← get
    let child : Session := { parent with nested := true, exitTrap := none, flow := .normal }
    let ((), done) := (runCommand sys n body).run child
    set (parent.takeBack done).checkErrexit

/-- Runs `if`. -/
def runIf (sys : System) : Nat → Command → Command → Option Command → ShellM Unit
  | 0, _, _, _ => modify Session.exhaust
  | n + 1, cond, thenPart, elsePart => do
    modify fun sh => { sh with guard := sh.guard + 1 }
    runCommand sys n cond
    modify fun sh => { sh with guard := sh.guard - 1 }
    let sh : Session ← get
    if !sh.running then return
    if sh.status == 0 then runCommand sys n thenPart
    else
      match elsePart with
      | some e => runCommand sys n e
      | none => set { sh with status := 0 }

/-- Runs a `while` (or `until`) loop. -/
def runLoop (sys : System) : Nat → Bool → Command → Command → ShellM Unit
  | 0, _, _, _ => modify Session.exhaust
  | n + 1, untilLoop, cond, body => do
    modify fun sh => { sh with loops := sh.loops + 1 }
    loopRounds sys n untilLoop cond body 0
    modify fun sh => { sh with loops := sh.loops - 1 }

/-- The rounds of a loop; `last` is the status of the last round's body. -/
def loopRounds (sys : System) : Nat → Bool → Command → Command → Nat → ShellM Unit
  | 0, _, _, _, _ => modify Session.exhaust
  | n + 1, untilLoop, cond, body, last => do
    modify fun sh => { sh with guard := sh.guard + 1 }
    runCommand sys n cond
    modify fun sh => { sh with guard := sh.guard - 1 }
    let sh : Session ← get
    match sh.flow with
    | .breaking k => set { sh with flow := if k > 1 then .breaking (k - 1) else .normal, status := 0 }
    | .continuing k =>
      if k > 1 then set { sh with flow := .continuing (k - 1) }
      else do
        set { sh with flow := .normal }
        loopRounds sys n untilLoop cond body last
    | .normal =>
      if (sh.status == 0) == untilLoop then set { sh with status := last }
      else do
        runCommand sys n body
        let sh : Session ← get
        match sh.flow with
        | .breaking k => set { sh with flow := if k > 1 then .breaking (k - 1) else .normal, status := 0 }
        | .continuing k =>
          if k > 1 then set { sh with flow := .continuing (k - 1) }
          else do
            set { sh with flow := .normal }
            loopRounds sys n untilLoop cond body sh.status
        | .normal => loopRounds sys n untilLoop cond body sh.status
        | _ => return
    | _ => return

/-- Runs a `for` loop. -/
def runFor (sys : System) : Nat → String → Option (List Word) → Command → ShellM Unit
  | 0, _, _, _ => modify Session.exhaust
  | n + 1, var, items, body => do
    let values ← match items with
      | some ws => expandFields sys n ws
      | none => pure (some (← getThe Session).args)
    match values with
    | none => return
    | some vs => do
      modify fun sh => { sh with loops := sh.loops + 1, status := 0 }
      forRounds sys n var vs body
      modify fun sh => { sh with loops := sh.loops - 1 }

/-- The rounds of a `for` loop over the values left. -/
def forRounds (sys : System) : Nat → String → List String → Command → ShellM Unit
  | 0, _, _, _ => modify Session.exhaust
  | _ + 1, _, [], _ => return
  | n + 1, var, v :: rest, body => do
    modify (·.assign var v)
    if !(← getThe Session).running then return
    runCommand sys n body
    let sh : Session ← get
    match sh.flow with
    | .breaking k => set { sh with flow := if k > 1 then .breaking (k - 1) else .normal, status := 0 }
    | .continuing k =>
      if k > 1 then set { sh with flow := .continuing (k - 1) }
      else do
        set { sh with flow := .normal }
        forRounds sys n var rest body
    | .normal => forRounds sys n var rest body
    | _ => return

/-- Runs `case`: the commands of the first arm with a pattern that matches. -/
def runCase (sys : System) : Nat → Word → List (List Word × Command) → ShellM Unit
  | 0, _, _ => modify Session.exhaust
  | n + 1, subject, arms => do
    match ← expandParts sys n subject false with
    | none => return
    | some ps =>
      let text := piecesText ps
      runArms sys n text arms

/-- Tries the arms of a `case` in order. -/
def runArms (sys : System) : Nat → String → List (List Word × Command) → ShellM Unit
  | 0, _, _ => modify Session.exhaust
  | _ + 1, _, [] => modify fun sh => { sh with status := 0 }
  | n + 1, text, (pats, body) :: rest => do
    match ← matchesAny sys n text pats with
    | none => return
    | some true => do
      modify fun sh => { sh with status := 0 }
      runCommand sys n body
    | some false => runArms sys n text rest

/-- Whether one of the patterns matches a text. -/
def matchesAny (sys : System) : Nat → String → List Word → ShellM (Option Bool)
  | 0, _, _ => return none
  | _ + 1, _, [] => return some false
  | n + 1, text, p :: rest => do
    match ← expandParts sys n p false with
    | none => return none
    | some ps =>
      if globMatchesText (compile (markedChars ps)) text then return some true
      else matchesAny sys n text rest

/-- The arguments words expand to. -/
def expandFields (sys : System) : Nat → List Word → ShellM (Option (List String))
  | 0, _ => return none
  | _ + 1, [] => return some []
  | n + 1, w :: rest => do
    match ← expandParts sys n w false with
    | none => return none
    | some ps =>
      let fields := (← getThe Session).fieldsOf ps
      match ← expandFields sys n rest with
      | none => return none
      | some more => return some (fields ++ more)

/-- The text a word expands to, without cutting or matching file names. -/
def expandText (sys : System) : Nat → Word → ShellM (Option String)
  | 0, _ => return none
  | n + 1, w => do
    match ← expandParts sys n w false with
    | none => return none
    | some ps => return some (piecesText ps)

/-- The values of assignments. -/
def expandAssigns (sys : System) : Nat → List (String × Word) → ShellM (Option (List (String × String)))
  | 0, _ => return none
  | _ + 1, [] => return some []
  | n + 1, (k, w) :: rest => do
    match ← expandText sys n w with
    | none => return none
    | some v =>
      match ← expandAssigns sys n rest with
      | none => return none
      | some more => return some ((k, v) :: more)

/-- Applies redirections, saying what to restore; nothing when one fails, after its
complaint. -/
def applyRedirects (sys : System) : Nat → List Redirect → Saved → ShellM (Option Saved)
  | 0, _, _ => return none
  | _ + 1, [], saved => return some saved
  | n + 1, r :: rest, saved => do
    let target ← match r.op with
      | .heredoc =>
        if r.expandDoc then
          match readDocText r.doc ((← getThe Session).dialect == .bash) with
          | .ok parts => expandText sys n parts
          | .error _ => pure (some r.doc)
        else pure (some r.doc)
      | _ => expandText sys n r.target
    match target with
    | none => return none
    | some t =>
      let sh : Session ← get
      let fail (m : String) : ShellM (Option Saved) := do
        set { sh.complain m with status := if sh.dialect == Dialect.bash then 1 else 2 }
        return none
      match r.op with
      | .read | .readWrite =>
        let fd := r.fd.getD 0
        match sh.openForReading t with
        | .ok input =>
          if fd == 0 then do
            set { sh with stdin := input }
            applyRedirects sys n rest { saved with stdinRedirected := true }
          else applyRedirects sys n rest saved
        | .error m =>
          if r.op == .readWrite then
            match sh.openForWriting t true with
            | .ok (sh', _) => do
              set { sh' with stdin := if fd == 0 then {} else sh'.stdin }
              applyRedirects sys n rest { saved with stdinRedirected := saved.stdinRedirected || fd == 0 }
            | .error m' => fail m'
          else fail m
      | .heredoc =>
        set { sh with stdin := { bytes := encode t } }
        applyRedirects sys n rest { saved with stdinRedirected := true }
      | .herestring =>
        set { sh with stdin := { bytes := encode (t ++ "\n") } }
        applyRedirects sys n rest { saved with stdinRedirected := true }
      | .write | .append =>
        match sh.openForWriting t (r.op == .append) with
        | .ok (sh', target) => do
          set (sh'.setFd (r.fd.getD 1) target)
          applyRedirects sys n rest saved
        | .error m => fail m
      | .writeBoth append =>
        match sh.openForWriting t append with
        | .ok (sh', target) => do
          set ((sh'.setFd 1 target).setFd 2 target)
          applyRedirects sys n rest saved
        | .error m => fail m
      | .dupWrite | .dupRead =>
        let fd := r.fd.getD (if r.op == .dupWrite then 1 else 0)
        if t == "-" then
          if fd == 0 then do
            set { sh with stdin := {} }
            applyRedirects sys n rest { saved with stdinRedirected := true }
          else do
            set (sh.setFd fd .closed)
            applyRedirects sys n rest saved
        else
          match t.toNat? with
          | some src =>
            if fd == 0 || src == 0 then applyRedirects sys n rest saved
            else
              match sh.fds.lookup src with
              | some tgt =>
                if tgt == .closed then fail (toString src ++ ": Bad file descriptor")
                else do
                  set (sh.setFd fd tgt)
                  applyRedirects sys n rest saved
              | none => fail (toString src ++ ": Bad file descriptor")
          | none =>
            if sh.dialect == .bash && r.fd.isNone && r.op == .dupWrite then
              match sh.openForWriting t false with
              | .ok (sh', target) => do
                set ((sh'.setFd 1 target).setFd 2 target)
                applyRedirects sys n rest saved
              | .error m => fail m
            else if sh.dialect == .bash then fail (t ++ ": ambiguous redirect")
            else fail ("Syntax error: Bad fd number")

/-- Runs an action with redirections applied, then restores what they changed. -/
def withRedirects (sys : System) : Nat → List Redirect → ShellM Unit → ShellM Unit
  | 0, _, _ => modify Session.exhaust
  | n + 1, rs, act => do
    if rs.isEmpty then act
    else do
      let sh : Session ← get
      match ← applyRedirects sys n rs { fds := sh.fds, stdin := sh.stdin, stdinRedirected := false } with
      | none => modify Session.checkErrexit
      | some saved => do
        act
        modify (·.restore saved)

/-- Runs a simple command on `line`. -/
def runSimple (sys : System) : Nat → Nat → List (String × Word) → List Word → List Redirect → ShellM Unit
  | 0, _, _, _, _ => modify Session.exhaust
  | n + 1, line, assigns, words, rs => do
    modify fun sh => { sh with line }
    let before : Session ← get
    match ← expandFields sys n words with
    | none => return
    | some fields =>
      match ← expandAssigns sys n assigns with
      | none => return
      | some values =>
        let sh : Session ← get
        let substituted := sh.substitutions != before.substitutions
        let substStatus := sh.status
        let traced := values.map (fun (k, v) => k ++ "=" ++ v)
        match fields with
        | [] => do
          let sh := if traced.isEmpty then sh else sh.trace traced
          let sh := values.foldl (fun sh (k, v) => if sh.running then sh.assign k v else sh) sh
          set sh
          if !sh.running then return
          let status := if substituted then substStatus else if sh.status != before.status then sh.status else 0
          set { sh with status }
          if !rs.isEmpty then
            match ← applyRedirects sys n rs { fds := sh.fds, stdin := sh.stdin, stdinRedirected := false } with
            | none => modify Session.checkErrexit
            | some saved => modify fun sh => { sh.restore saved with status }
          modify Session.checkErrexit
        | name :: args => do
          let sh := match sh.dialect with
            | .posix => sh.trace (traced ++ fields)
            | .bash => (traced.foldl (fun (sh : Session) a => sh.trace [a]) sh).trace fields
          set sh
          let special := specialBuiltins.contains name && !name.contains '/' &&
            (sh.dialect == .posix || !sh.funcs.any (·.1 == name))
          match ← applyRedirects sys n rs { fds := sh.fds, stdin := sh.stdin, stdinRedirected := false } with
          | none =>
            if special && sh.dialect == .posix then modify fun sh => { sh with flow := .exiting }
            modify Session.checkErrexit
          | some saved => do
            invoke sys n name args values special
            if name == "exec" && args.isEmpty then pure ()
            else modify (·.restore saved)
            modify Session.checkErrexit

/-- Runs a command by name: a special built-in, a function, a built-in or a program. The
assignments stay for a special built-in and hold for this command otherwise. -/
def invoke (sys : System) : Nat → String → List String → List (String × String) → Bool → ShellM Unit
  | 0, _, _, _, _ => modify Session.exhaust
  | n + 1, name, args, assigns, special => do
    let sh : Session ← get
    if special then do
      set (assigns.foldl (fun sh (k, v) => sh.assign k v) sh)
      runBuiltinNamed sys n name args
    else
      match sh.funcs.lookup name with
      | some body =>
        if name.contains '/' then runProgram sys n name args assigns
        else withAssigns n assigns (callFunction sys n body args)
      | none =>
        if isBuiltin sh.dialect name && !name.contains '/' then
          withAssigns n assigns (runBuiltinNamed sys n name args)
        else runProgram sys n name args assigns

/-- Runs an action with assignments that hold for it only. -/
def withAssigns : Nat → List (String × String) → ShellM Unit → ShellM Unit
  | 0, _, _ => modify Session.exhaust
  | _ + 1, assigns, act => do
    if assigns.isEmpty then act
    else do
      let sh : Session ← get
      let old := assigns.map fun (k, _) => (k, sh.vars.lookup k)
      set (assigns.foldl (fun sh (k, v) => sh.assign k v) sh)
      act
      modify fun sh => old.foldl (fun sh (k, saved) =>
        match saved with
        | some v => sh.putVar k v
        | none => sh.unsetVar k) sh

/-- Calls a function with arguments. -/
def callFunction (sys : System) : Nat → Command → List String → ShellM Unit
  | 0, _, _ => modify Session.exhaust
  | n + 1, body, args => do
    let sh : Session ← get
    set { sh with args, locals := [] :: sh.locals }
    runCommand sys n body
    let done : Session ← get
    let flow := if done.flow == .returning then .normal else done.flow
    set { done.popLocals with args := sh.args, flow }

/-- Runs a built-in command. -/
def runBuiltinNamed (sys : System) : Nat → String → List String → ShellM Unit
  | 0, _, _ => modify Session.exhaust
  | n + 1, name, args => do
    let sh : Session ← get
    match name with
    | "eval" =>
      let text := " ".intercalate args
      if text.isEmpty then set { sh with status := 0 }
      else do
        -- the POSIX shell counts the lines of the text from one and names `eval` in its
        -- complaints; the larger shell goes on from the line of the command
        let posix := sh.dialect == .posix
        let start := if posix then 1 else sh.line
        set { sh with status := 0, commandName := if posix then some "eval" else sh.commandName }
        runText sys n { rest := text.toList, line := start, bash := !posix } text start false true
        modify fun done => { done with commandName := sh.commandName }
    | "." | "source" =>
      match args with
      | [] =>
        match sh.dialect with
        | .posix => set { sh with status := 0 }
        | .bash =>
          set { sh.complain ".: filename argument required" with status := 2 }
      | file :: more =>
        let found : Option String :=
          if file.contains '/' then some file
          else if sh.dialect == .bash then some file else none
        match found with
        | none => set (sh.fatal (".: " ++ file ++ ": not found"))
        | some p =>
          match sh.tree.readBytes (sh.resolvePath p) with
          | .ok bs => do
            let text := decodeLossy bs
            let savedArgs := sh.args
            let newArgs := if more.isEmpty then sh.args else more
            set { sh with args := newArgs, status := 0, locals := sh.locals, commandName := some p }
            runText sys n { rest := text.toList, bash := sh.dialect == .bash } text 1 false false
            modify fun done => { done with args := if more.isEmpty then done.args else savedArgs,
                                           flow := if done.flow == .returning then .normal else done.flow,
                                           commandName := sh.commandName }
          | .error e =>
            match sh.dialect with
            | .posix => set (sh.fatal (".: cannot open " ++ p ++ ": " ++
                (if e.errno == .noEntry || e.errno == .notDir then "No such file" else e.errno.text)))
            | .bash => set { sh.complain (p ++ ": " ++ e.errno.text) with status := 1 }
    | "exec" =>
      match args with
      | [] => set { sh with status := 0 }
      | prog :: more => do
        invoke sys n prog more [] (specialBuiltins.contains prog)
        modify fun sh => { sh with flow := .exiting }
    | "command" =>
      match args with
      | "-v" :: names => set (sh.commandV sys.programs names)
      | "-V" :: names => set (sh.typeCommand sys.programs names)
      | "-p" :: prog :: more | prog :: more =>
        if isBuiltin sh.dialect prog then runBuiltinNamed sys n prog more
        else runProgram sys n prog more []
      | _ => set { sh with status := 0 }
    | "builtin" =>
      match args with
      | prog :: more => runBuiltinNamed sys n prog more
      | [] => set { sh with status := 0 }
    | _ =>
      -- a built-in names itself in its complaints
      let inside := if sh.dialect == .posix then { sh with commandName := none } else sh
      match inside.runBuiltin? sys.programs name args with
      | some sh' => set { sh' with commandName := sh.commandName }
      | none => runProgram sys n name args []

/-- Runs a program found by the system, with assignments added to its environment. A
file the system refuses to run for having no `#!` line runs as a script of a fresh
shell of the same kind. -/
def runProgram (sys : System) : Nat → String → List String → List (String × String) → ShellM Unit
  | 0, _, _, _ => modify Session.exhaust
  | n + 1, name, args, assigns => do
    let sh : Session ← get
    match sys.run (sh.context assigns sh.stdin) name args with
    | .ok c => set (sh.record c)
    | .error .notFound =>
      let message := match sh.dialect with
        | .posix => name ++ ": not found"
        | .bash => name ++ ": command not found"
      set { sh.complain message with status := 127 }
    | .error (.refused e) =>
      if e.errno == .noExec then
        match sh.tree.readBytes (sh.resolvePath name) with
        | .ok bs => do
          let text := decodeLossy bs
          let ctx := sh.context assigns sh.stdin
          let child := Session.fresh sh.dialect name {} args ctx
          let child := { child with fds := sh.fds, output := sh.output, streams := sh.streams,
                                    budget := sh.budget, slept := sh.slept }
          let ((), done) := (runText sys n { rest := text.toList, bash := sh.dialect == .bash } text 1 true false).run child
          set { sh with tree := done.tree, output := done.output, stdin := done.stdin, slept := done.slept,
                        status := done.status, budget := done.budget,
                        endless := sh.endless || done.endless,
                        flow := if done.endless then .exiting else sh.flow }
        | .error _ => set { sh.complain (name ++ ": Permission denied") with status := 126 }
      else
        set { sh.complain (name ++ ": " ++ e.errno.text) with status := if e.errno == Errno.noEntry then 127 else 126 }

/-- Evaluates a condition of `[[ … ]]`. -/
def evalCondition (sys : System) : Nat → Condition → ShellM (Option Bool)
  | 0, _ => return none
  | n + 1, c => do
    match c with
    | .word w => return (← expandText sys n w).map (!·.isEmpty)
    | .not c => return (← evalCondition sys n c).map (!·)
    | .and a b =>
      match ← evalCondition sys n a with
      | some true => evalCondition sys n b
      | other => return other
    | .or a b =>
      match ← evalCondition sys n a with
      | some false => evalCondition sys n b
      | other => return other
    | .unary op w =>
      match ← expandText sys n w with
      | none => return none
      | some t =>
        let sh : Session ← get
        return some (if op == "-n" then !t.isEmpty else if op == "-z" then t.isEmpty
          else fileTest (sh.context [] sh.stdin) (if op == "-a" then "-e" else op) t)
    | .binary op a b =>
      match ← expandText sys n a with
      | none => return none
      | some x =>
        if op == "==" || op == "=" || op == "!=" then
          match ← expandParts sys n b false with
          | none => return none
          | some ps =>
            let m := globMatchesText (compile (markedChars ps)) x
            return some (if op == "!=" then !m else m)
        else
          match ← expandText sys n b with
          | none => return none
          | some y =>
            if op == "=~" then
              match parseRegex true y with
              | .ok (r, _) =>
                let found := r.search x.toList.toArray {} 0
                match found with
                | some (s, e, _) =>
                  modify (·.setVar "BASH_REMATCH" (String.ofList ((x.toList.drop s).take (e - s))))
                  return some true
                | none => return some false
              | .error _ => do
                modify fun sh => { sh with status := 2 }
                return some false
            else if op == "<" then return some (decide (x < y))
            else if op == ">" then return some (decide (y < x))
            else
              let sh : Session ← get
              let num (t : String) : Int := match evaluate true t (fun k => sh.getVar? k) with
                | .ok (v, _) => v
                | .error _ => 0
              let (p, q) := (num x, num y)
              return some (match op with
                | "-eq" => p == q | "-ne" => p != q | "-lt" => p < q | "-le" => p ≤ q
                | "-gt" => p > q | _ => p ≥ q)

end

/-- The fuel a script runs with: the deepest nesting of commands and the most rounds of
a loop. -/
def scriptFuel : Nat := 1000000

/-- Runs the commands `trap` set for the end of the shell, if any; the status stays
unless they call `exit`. -/
def runExitTrap (sys : System) (sh : Session) : Session :=
  match sh.exitTrap with
  | none => sh
  | some text =>
    let status := sh.status
    let sh := { sh with exitTrap := none, flow := .normal, loops := 0, locals := [] }
    let ((), done) := (runText sys scriptFuel { rest := text.toList, bash := sh.dialect == .bash } text 1 false false).run sh
    let exited := done.flow == .exiting && done.status != status
    { done with status := if exited then done.status else status }

/-- Runs a script as a program: the text, the shell's name (`$0`), its options and
arguments, in a context. What the shell wrote to its output and error streams, its
status, the time it took and the files it left make the result. -/
def runScript (sys : System) (d : Dialect) (opts : Options) (name text : String) (args : List String)
    (ctx : Context) : Completed :=
  let sh := Session.fresh d name opts args ctx
  let ((), done) := (runText sys scriptFuel { rest := text.toList, bash := d == .bash } text 1 true false).run sh
  let done := runExitTrap sys done
  { writes := done.output.filterMap fun (k, bs) =>
      if k == 1 then some (.out, bs) else if k == 2 then some (.err, bs) else none,
    status := done.status,
    slept := if done.endless then 1 / 0 else done.slept,
    tree := some done.tree,
    leftover := some done.stdin }

end IacLint.Shell
