import IacLint.Host.Test
import IacLint.Tools.Cat
import IacLint.Tools.Cut
import IacLint.Tools.Echo
import IacLint.Tools.Expr
import IacLint.Tools.Grep
import IacLint.Tools.Lines
import IacLint.Tools.Ls
import IacLint.Tools.Names
import IacLint.Tools.Sed.Edit
import IacLint.Tools.Sleep
import IacLint.Tools.Tr
import IacLint.Tools.Wc

/-!
# The standard utilities

The utilities a system has, by name, and how each runs: a utility is given the context
it runs in, the name it was started by (its complaints begin with it) and its
arguments.

## Main definitions

* `utilityNames` — the utilities there are
* `runUtility` — runs a utility by name, if it is one
-/

namespace IacLint.Tools

open IacLint.Host IacLint.Text

/-- `printf` run as `name`: complaints first, then the output, which is written when
the run ends. -/
def runPrintfUtility (name : String) (args : List String) : Completed :=
  match args with
  | [] => complaint (usageLines name "missing operand")
  | fmt :: rest =>
    let p := formatOutput .utility fmt rest
    let run := p.complaints.foldl (fun (c : Completed) m => c.warn (name ++ ": " ++ m)) {}
    { run.emit .out p.bytes with status := p.status }

/-- The complaint of the `test` utility named `name` about a condition. -/
def utilityTestMessage (name : String) : TestError → String
  | .missingBracket => name ++ ": missing ']'"
  | .unexpectedOperator a => name ++ ": extra argument '" ++ a ++ "'"
  | .argumentExpected op => name ++ ": missing argument after '" ++ op ++ "'"
  | .illegalNumber a => name ++ ": invalid integer '" ++ a ++ "'"
  | .closingParen => name ++ ": ')' expected"

/-- The `test` utility, or `[` when started by that name. -/
def runTestUtility (ctx : Context) (invoked name : String) (args : List String) : Completed :=
  let operands : Except TestError (List String) :=
    if name == "[" then (if args.getLast? == some "]" then .ok args.dropLast else .error .missingBracket)
    else .ok args
  match operands.bind (evalTest ctx) with
  | .ok b => { status := if b then 0 else 1 }
  | .error e => { complaint (utilityTestMessage invoked e) with status := 2 }

/-- The utilities there are. -/
def utilityNames : List String :=
  ["basename", "cat", "cut", "dirname", "echo", "expr", "false", "grep", "head", "ls", "printf", "sed", "sleep",
    "tail", "test", "[", "tr", "true", "wc"]

/-- Runs a utility by name in a context, started as `invoked`; nothing when the name is
no utility. -/
def runUtility (ctx : Context) (invoked name : String) (args : List String) : Option Completed :=
  match name with
  | "basename" => some (runBasename invoked args)
  | "cat" => some (runCat ctx invoked args)
  | "cut" => some (Cut.runCut ctx invoked args)
  | "dirname" => some (runDirname invoked args)
  | "echo" => some (Completed.ofOutput (echoOutput .utility args))
  | "expr" => some (runExpr invoked args)
  | "false" => some { status := 1 }
  | "grep" => some (Grep.runGrep ctx invoked args)
  | "head" => some (runHead ctx invoked args)
  | "ls" => some (runLs ctx invoked args)
  | "printf" => some (runPrintfUtility invoked args)
  | "sed" => some (Sed.runSed ctx invoked args)
  | "sleep" => some (runSleep invoked args)
  | "tail" => some (runTail ctx invoked args)
  | "test" | "[" => some (runTestUtility ctx invoked name args)
  | "tr" => some (Tr.runTr ctx invoked args)
  | "true" => some {}
  | "wc" => some (runWc ctx invoked args)
  | _ => none

end IacLint.Tools
