import IacLint.Shell.Syntax
import IacLint.Shell.Pattern
import IacLint.Host.Process

/-!
# The state of a running shell

A running shell has its options, positional parameters, variables and functions, the
status of the last command, the file tree as its commands left it, its working
directory, what it reads, where each output descriptor leads, and what it has written
to its own output and error streams.

Words are expanded into *pieces*: characters marked as quoted (never cut into fields
nor matched against file names) or as coming from an expansion outside quotes (cut at
the characters of `IFS`), marks of quoted empty text (which still make a field), and
the boundaries between the fields of `"$@"`. Cutting into fields follows the POSIX
rules: blanks of `IFS` around a field are dropped, and each other `IFS` character ends a
field, even an empty one.

## Main definitions

* `Dialect` — the POSIX shell or the larger one
* `Target` — where an output descriptor leads
* `Session` — the state of a running shell
* `Piece`, `splitFields` — expanded words and their fields
* `expandPaths` — the files a pattern names
-/

namespace IacLint.Shell

open IacLint.Host IacLint.Files IacLint.Text

/-- Which shell runs a script. -/
inductive Dialect where
  /-- The POSIX shell. -/
  | posix
  /-- The larger shell, with its own complaints and extensions. -/
  | bash
  deriving Inhabited, BEq

/-- The options a shell runs with. -/
structure Options where
  /-- `-e`: a failing command ends the script. -/
  errexit : Bool := false
  /-- `-u`: expanding an unset parameter is an error. -/
  nounset : Bool := false
  /-- `-x`: each command is written to the error stream before it runs. -/
  xtrace : Bool := false
  /-- `-f`: no file-name expansion. -/
  noglob : Bool := false
  /-- `-C`: `>` does not overwrite files. -/
  noclobber : Bool := false
  /-- `-n`: commands are read but not run. -/
  noexec : Bool := false
  /-- `-o pipefail` of the larger shell: a pipeline fails with its last failing command. -/
  pipefail : Bool := false
  /-- The letters of the other options that are on, which change nothing here. -/
  others : List Char := []
  deriving Inhabited

/-- Turns one of the options that change nothing here on or off. -/
def Options.toggle (o : Options) (c : Char) (on : Bool) : Options :=
  { o with others := if on then (if o.others.contains c then o.others else o.others ++ [c])
                     else o.others.filter (· != c) }

/-- Whether the option of a letter is on. -/
def Options.hasLetter (o : Options) : Char → Bool
  | 'e' => o.errexit
  | 'u' => o.nounset
  | 'x' => o.xtrace
  | 'f' => o.noglob
  | 'C' => o.noclobber
  | 'n' => o.noexec
  | c => o.others.contains c

/-- The letters of the options that are on, as `$-` shows them: the POSIX shell lists
them from its last option to its first; the larger shell in its own order, with `h`
and `B`, which are on from the start. -/
def Options.letters (bash : Bool) (o : Options) : String :=
  let order := if bash then "abefhkmnptuvxBCEHPT" else "ubaCEVvxsnmiIfe"
  String.ofList (order.toList.filter o.hasLetter)

/-- A variable: its value (none when declared without one), and whether it is exported
to programs and whether it may not change. -/
structure Var where
  value : Option String
  exported : Bool := false
  readonly : Bool := false
  deriving Inhabited

/-- Where an output descriptor leads. -/
inductive Target where
  /-- A stream the shell collects: its output (1), its errors (2), or what a command
  substitution or the stage of a pipeline captures. -/
  | stream (id : Nat)
  /-- Nowhere. -/
  | null
  /-- The end of a file of the tree. -/
  | file (path : String)
  /-- A closed descriptor. -/
  | closed
  deriving Inhabited, BEq

/-- How control leaves the commands being run. -/
inductive Flow where
  | normal
  /-- The shell (or the subshell) ends. -/
  | exiting
  /-- The function (or the script read by `.`) returns. -/
  | returning
  /-- The innermost `n` loops end. -/
  | breaking (n : Nat)
  /-- The innermost loop goes on with its next round, after `n - 1` loops end. -/
  | continuing (n : Nat)
  /-- The rest of the script's current line is dropped, after a failed expansion in the
  larger shell. -/
  | aborted
  deriving Inhabited, BEq

/-- The state of a running shell. -/
structure Session where
  dialect : Dialect
  /-- The script's name, `$0`, which also opens complaints. -/
  name : String
  opts : Options := {}
  args : List String := []
  vars : List (String × Var) := []
  funcs : List (String × Command) := []
  status : Nat := 0
  tree : Tree
  cwd : String := ""
  stdin : Input := {}
  fds : List (Nat × Target) := [(1, .stream 1), (2, .stream 2)]
  /-- What was written to the collected streams, in order. -/
  output : List (Nat × List UInt8) := []
  /-- The next number for a stream to capture. -/
  streams : Nat := 3
  slept : Float := 0
  flow : Flow := .normal
  /-- The line of the command being run. -/
  line : Nat := 0
  /-- Saved values of the variables made local, one frame per function call. -/
  locals : List (List (String × Option Var)) := []
  loops : Nat := 0
  /-- The commands to run when the shell ends. -/
  exitTrap : Option String := none
  /-- Whether the run never ends. -/
  endless : Bool := false
  /-- Whether the shell is a copy that ends with its commands (a subshell). -/
  nested : Bool := false
  /-- How many conditions the commands being run are part of: a failing command ends
  the shell under `-e` only outside them. -/
  guard : Nat := 0
  /-- The commands the shell may still run; a run that needs more never ends. -/
  budget : Nat := 100000
  /-- The command substitutions run so far. -/
  substitutions : Nat := 0
  /-- What the commands being run come from, when not the script itself: `eval`, or
  the file read by `.`. The POSIX shell names it after the line number of its
  complaints, the larger shell names a file read by `.` in place of the script. -/
  commandName : Option String := none
  /-- Where `getopts` is: the number of the next argument, as it last set `OPTIND`,
  and its place inside an argument. Setting `OPTIND` starts it again. -/
  getoptsIndex : Nat := 1
  getoptsPlace : Option (Nat × Nat) := none
  /-- The permission bits new files do not get. -/
  fileMask : Nat := 18
  deriving Inhabited

namespace Session

/-- The value of a variable, if set. -/
def getVar? (sh : Session) (name : String) : Option String :=
  (sh.vars.lookup name).bind (·.value)

/-- Replaces or adds the entry of a variable. -/
def putVar (sh : Session) (name : String) (v : Var) : Session :=
  if sh.vars.any (·.1 == name) then
    { sh with vars := sh.vars.map fun e => if e.1 == name then (name, v) else e }
  else { sh with vars := sh.vars ++ [(name, v)] }

/-- Whether a variable may not change. -/
def isReadonly (sh : Session) (name : String) : Bool :=
  (sh.vars.lookup name).any (·.readonly)

/-- Sets a variable, keeping whether it is exported. Setting `OPTIND` starts the
reading of `getopts` again from that argument. -/
def setVar (sh : Session) (name value : String) : Session :=
  let sh := if name == "OPTIND" then
      { sh with getoptsIndex := value.toNat?.getD (if sh.dialect == .bash then 0 else 1), getoptsPlace := none }
    else sh
  match sh.vars.lookup name with
  | some v => sh.putVar name { v with value := some value }
  | none => sh.putVar name { value := some value }

/-- Removes a variable. -/
def unsetVar (sh : Session) (name : String) : Session :=
  { sh with vars := sh.vars.filter (·.1 != name) }

/-- The variables exported to programs, with their values. -/
def environment (sh : Session) : List (String × String) :=
  sh.vars.filterMap fun (n, v) => if v.exported then v.value.map (n, ·) else none

/-- The text of `IFS`: its value, or blank, tab and line break when unset. -/
def ifs (sh : Session) : String := (sh.getVar? "IFS").getD " \t\n"

/-- The value of a special or positional parameter or a variable, if set. -/
def param? (sh : Session) (name : String) : Option String :=
  match name with
  | "0" => some sh.name
  | "#" => some (toString sh.args.length)
  | "?" => some (toString sh.status)
  | "@" => some (" ".intercalate sh.args)
  | "*" =>
    let sep := match sh.ifs.toList with
      | c :: _ => String.ofList [c]
      | [] => ""
    some (sep.intercalate sh.args)
  | "$" => some "4242"
  | "!" => none
  | "-" => some (sh.opts.letters (sh.dialect == .bash))
  | _ =>
    match name.toNat? with
    | some k => if k = 0 then some sh.name else sh.args[k - 1]?
    | none => sh.getVar? name

/-- Writes bytes to an output descriptor. -/
def write (sh : Session) (fd : Nat) (bs : List UInt8) : Session :=
  if bs.isEmpty then sh
  else
    match sh.fds.lookup fd with
    | some (.stream k) => { sh with output := sh.output ++ [(k, bs)] }
    | some (.file p) =>
      let old := (sh.tree.readBytes p).toOption.getD []
      match sh.tree.writeBytes p (old ++ bs) with
      | .ok t => { sh with tree := t }
      | .error _ => sh
    | _ => sh

/-- What was written to a collected stream. -/
def captured (sh : Session) (k : Nat) : List UInt8 :=
  (sh.output.filter (·.1 == k)).flatMap (·.2)

/-- A complaint of the shell about the command on the current line. -/
def complaintText (sh : Session) (message : String) : String :=
  match sh.dialect with
  | .posix =>
    let source := match sh.commandName with
      | some c => c ++ ": "
      | none => ""
    sh.name ++ ": " ++ toString sh.line ++ ": " ++ source ++ message ++ "\n"
  | .bash => sh.commandName.getD sh.name ++ ": line " ++ toString sh.line ++ ": " ++ message ++ "\n"

/-- Writes a complaint to the error descriptor. -/
def complain (sh : Session) (message : String) : Session :=
  sh.write 2 (encode (sh.complaintText message))

/-- Ends the shell with a complaint and status 2, as an error in a special built-in or
an expansion does. -/
def fatal (sh : Session) (message : String) : Session :=
  { sh.complain message with status := 2, flow := .exiting }

/-- Whether the commands being run go on. -/
def running (sh : Session) : Bool := sh.flow == .normal

/-- The context a program started by the shell runs in. -/
def context (sh : Session) (extraEnv : List (String × String)) (input : Input) : Context :=
  let env := sh.environment.filter (fun (n, _) => !extraEnv.any (·.1 == n)) ++ extraEnv
  { tree := sh.tree, cwd := sh.cwd, env, input }

end Session

/-- A piece of an expanded word. -/
inductive Piece where
  /-- A character: quoted, or from an expansion outside quotes (`split`), or neither
  (text written outside quotes). -/
  | char (c : Char) (quoted : Bool) (split : Bool)
  /-- Quoted text that may be empty: the word makes a field. -/
  | mark
  /-- The boundary between two fields of `"$@"`. -/
  | boundary
  /-- The place between two arguments of an unquoted `$@`: it ends a field begun, as a
  blank of `IFS` does, and makes none of its own. -/
  | gap
  deriving Inhabited, BEq

/-- The pieces of a text. -/
def piecesOf (s : String) (quoted split : Bool) : List Piece :=
  s.toList.map fun c => .char c quoted split

/-- The characters of pieces, each marked as quoted or not. -/
def markedChars (ps : List Piece) : List (Char × Bool) :=
  ps.filterMap fun p => match p with
    | .char c q _ => some (c, q)
    | _ => none

/-- The text of pieces, quotes removed. -/
def piecesText (ps : List Piece) : String := String.ofList ((markedChars ps).map (·.1))

/-- Whether a character is a blank of `IFS`. -/
def isIfsBlank (c : Char) : Bool := c = ' ' || c = '\t' || c = '\n'

/-- The state of cutting pieces into fields: the fields done, the pieces of the field
begun, and after a delimiter whether it was a blank that may still take one other
delimiter (`some true`), or any delimiter (`some false`). -/
structure Splitting where
  fields : List (List Piece) := []
  current : List Piece := []
  after : Option Bool := none

/-- Cuts the pieces of a word into fields at the characters of `ifs` that come from
expansions outside quotes and at the boundaries of `"$@"`. A word that gives no pieces
at all gives no field; a last field is dropped when it is empty. -/
def splitFields (ifs : String) (ps : List Piece) : List (List Piece) :=
  let delims := ifs.toList
  let st := ps.foldl (fun (st : Splitting) p =>
    match p with
    | .boundary => { fields := st.fields ++ [st.current], current := [], after := none }
    | .gap =>
      if st.current.isEmpty then st
      else { fields := st.fields ++ [st.current], current := [], after := some true }
    | .char c _ true =>
      if delims.contains c then
        let blank := isIfsBlank c
        match st.after with
        | some wasBlank =>
          if blank then st
          else if wasBlank then { st with after := some false }
          else { st with fields := st.fields ++ [st.current], current := [], after := some false }
        | none =>
          if blank && st.current.isEmpty then st
          else { fields := st.fields ++ [st.current], current := [], after := some blank }
      else { st with current := st.current ++ [p], after := none }
    | _ => { st with current := st.current ++ [p], after := none }) {}
  if st.current.isEmpty then st.fields else st.fields ++ [st.current]

/-- The path of a name inside a directory written as `prefix`. -/
def joinPath (dir name : String) : String :=
  if dir.isEmpty then name else if dir.endsWith "/" then dir ++ name else dir ++ "/" ++ name

/-- The names in the directory a path leads to, for file-name expansion: `.` and `..`
first. -/
def namesIn (t : Tree) (cwd dir : String) : List String :=
  let p := if dir.isEmpty then (if cwd.isEmpty then "." else cwd)
    else if dir.startsWith "/" then dir else joinPath cwd dir
  match t.stat p with
  | .ok (loc, .dir) => [".", ".."] ++ t.childNames loc
  | _ => []

/-- Whether a path exists, a dangling link included. -/
def pathExists (t : Tree) (cwd p : String) : Bool :=
  let full := if p.startsWith "/" || cwd.isEmpty then p else joinPath cwd p
  match t.locate [] (Text.splitOnChar full '/') false with
  | .ok (_, some _) => true
  | _ => false

/-- The paths that match the components of a pattern, below the paths found so far. A
component without wildcards is taken as written; one with wildcards matches the names
of the directory, a leading `.` only when written. -/
def expandComponents (t : Tree) (cwd : String) : List (List (Char × Bool)) → List String →
    List String
  | [], found => found
  | comp :: rest, found =>
    let globs := compile comp
    let next := found.flatMap fun dir =>
      if hasWildcards globs then
        let dotOk := comp.head?.map (·.1) == some '.'
        let names := (namesIn t cwd dir).filter fun n =>
          (dotOk || !n.startsWith ".") && globMatchesText globs n
        (names.mergeSort fun a b => decide (a ≤ b)).map (joinPath dir ·)
      else [joinPath dir (String.ofList (comp.map (·.1)))]
    expandComponents t cwd rest next

/-- The components of a pattern between its unquoted slashes; empty ones are dropped. -/
def splitAtSlashes (cs : List (Char × Bool)) : List (List (Char × Bool)) :=
  let (done, cur) := cs.foldl (fun (acc : List (List (Char × Bool)) × List (Char × Bool)) x =>
    if x.1 = '/' && !x.2 then (if acc.2.isEmpty then acc else (acc.1 ++ [acc.2], []))
    else (acc.1, acc.2 ++ [x])) ([], [])
  if cur.isEmpty then done else done ++ [cur]

/-- The files a field names when it has unquoted wildcards: the matching paths in
order, or none when nothing matches (the field then stands for itself). -/
def expandPaths (t : Tree) (cwd : String) (cs : List (Char × Bool)) : Option (List String) :=
  if !hasWildcards (compile cs) then none
  else
    let absolute := cs.head?.map (·.1) == some '/'
    let comps := splitAtSlashes cs
    let start := if absolute then ["/"] else [""]
    let found := (expandComponents t cwd comps start).filter (pathExists t cwd ·)
    if found.isEmpty then none else some found

end IacLint.Shell
