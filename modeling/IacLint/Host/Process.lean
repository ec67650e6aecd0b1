import IacLint.Files.Tree
import IacLint.Text.Utf8

/-!
# Programs and their runs

A program runs in a *context*: the file tree, its working directory in the tree, its
environment and what it reads. A finished run gives what the program wrote to its
output and error streams, its exit status, the seconds it spent sleeping (all the time
a run takes here), the file tree if the run changed it, and what is left of its input
if it read some.

Paths are read from the working directory, or from the top of the tree when they start
with `/`: the tree stands for the whole file system, and nothing outside it exists.

## Main definitions

* `Input` — what a program reads
* `Context` — where a program runs
* `Channel`, `Completed` — what a finished run gives
* `StartFailure` — why a program could not start
* `Runner` — what runs a program by name
-/

namespace IacLint.Host

open IacLint.Files IacLint.Text

/-- What a program reads on its standard input: bytes, and whether they come from a
regular file rather than a pipe. -/
structure Input where
  bytes : List UInt8 := []
  regular : Bool := false
  deriving Inhabited

/-- Where a program runs: the file tree, the working directory (a path from the top,
empty for the top), the environment and the input. -/
structure Context where
  tree : Tree
  cwd : String := ""
  env : List (String × String) := []
  input : Input := {}
  deriving Inhabited

/-- The two output streams of a program. -/
inductive Channel where
  | out
  | err
  deriving Inhabited, BEq

/-- What a finished run gives. -/
structure Completed where
  /-- What the run wrote, in the order it wrote it, a chunk at a time. -/
  writes : List (Channel × List UInt8) := []
  status : Nat := 0
  /-- The seconds the run spent sleeping. -/
  slept : Float := 0
  /-- The file tree after the run, when the run changed it. -/
  tree : Option Tree := none
  /-- What is left of the input, when the run read some of it. -/
  leftover : Option Input := none
  deriving Inhabited

namespace Completed

/-- Adds a chunk written to a stream. -/
def emit (c : Completed) (ch : Channel) (bs : List UInt8) : Completed :=
  if bs.isEmpty then c else { c with writes := c.writes ++ [(ch, bs)] }

/-- Adds text written to the output stream. -/
def say (c : Completed) (s : String) : Completed := c.emit .out (encode s)

/-- Adds a line written to the error stream. -/
def warn (c : Completed) (s : String) : Completed := c.emit .err (encode (s ++ "\n"))

/-- What the run wrote to one stream. -/
def written (c : Completed) (ch : Channel) : List UInt8 :=
  (c.writes.filter (·.1 == ch)).flatMap (·.2)

/-- What the run wrote to its output stream. -/
def stdout (c : Completed) : List UInt8 := c.written .out

/-- What the run wrote to its error stream. -/
def stderr (c : Completed) : List UInt8 := c.written .err

/-- A run that wrote bytes to its output and succeeded. -/
def ofOutput (bs : List UInt8) : Completed := ({} : Completed).emit .out bs

end Completed

/-- Why a program could not start: there is no such program, or the system refused
to run it. -/
inductive StartFailure where
  | notFound
  | refused (e : OsError)
  deriving Inhabited

/-- What runs a program by name or path with arguments in a context. -/
abbrev Runner := Context → String → List String → Except StartFailure Completed

/-- A run that wrote a complaint and failed. -/
def complaint (message : String) : Completed :=
  { ({} : Completed).warn message with status := 1 }

namespace Context

/-- The path in the tree of a path given to a program: from the top for an absolute
path, from the working directory otherwise. -/
def resolve (ctx : Context) (p : String) : String :=
  if p.startsWith "/" then p
  else if ctx.cwd.isEmpty then p
  else ctx.cwd ++ "/" ++ p

/-- What a path leads to, links followed. -/
def stat (ctx : Context) (p : String) : Except Errno (List String × Node) :=
  ctx.tree.statPath (ctx.resolve p)

/-- The bytes of the file a path leads to; failures name the path as given. -/
def readBytes (ctx : Context) (p : String) : Except OsError (List UInt8) :=
  match ctx.tree.readBytes (ctx.resolve p) with
  | .ok bs => .ok bs
  | .error e => .error { e with path := p }

/-- Writes a file; failures name the path as given. -/
def writeBytes (ctx : Context) (p : String) (bytes : List UInt8) : Except OsError Tree :=
  match ctx.tree.writeBytes (ctx.resolve p) bytes with
  | .ok t => .ok t
  | .error e => .error { e with path := p }

/-- The value of an environment variable. -/
def getEnv? (ctx : Context) (name : String) : Option String := ctx.env.lookup name

end Context

end IacLint.Host
