import IacLint.Files.Path
import IacLint.Text.Quoted

/-!
# File trees

A file tree is what a scan reads: files with their bytes and executable bit,
directories, and symbolic links with the path they point to. Entries are named by
their parts below the tree's top, which is also the directory relative paths start
from.

Resolving a path walks its names from the top. A `..` goes up from the directory
reached so far (not back along the written path), so `link/..` is the parent of the
link's target. A link is followed wherever it is not the last name, and for the last
name when asked to; a link target is read from the link's directory. A path through a
file fails with *not a directory*, a missing name with *no such file or directory*,
and a path whose resolution follows more links than `maxLinks`, counted over the whole
path, with *too many levels of symbolic links*.

## Main definitions

* `Node`, `Tree` — entries of a tree
* `Errno`, `OsError` — failures, written as `[Errno 2] No such file or directory: 'x'`
* `Tree.stat` — what a path leads to, links followed
* `Tree.readBytes` — the bytes of the file a path leads to
-/

namespace IacLint.Files

/-- An entry of a file tree. -/
inductive Node where
  | file (bytes : List UInt8) (executable : Bool)
  | dir
  | link (target : String)
  deriving Repr, Inhabited

/-- A file tree: its entries by their names below the top. The top itself is a
directory and has no entry. -/
structure Tree where
  entries : List (List String × Node) := []
  deriving Inhabited

/-- The ways an operation on files fails. -/
inductive Errno where
  | noEntry
  | access
  | noExec
  | notDir
  | isDir
  | loop
  | exists
  deriving Repr, DecidableEq, Inhabited

namespace Errno

/-- The number of a failure. -/
def code : Errno → Nat
  | .noEntry => 2
  | .access => 13
  | .noExec => 8
  | .notDir => 20
  | .isDir => 21
  | .loop => 40
  | .exists => 17

/-- The description of a failure. -/
def text : Errno → String
  | .noEntry => "No such file or directory"
  | .access => "Permission denied"
  | .noExec => "Exec format error"
  | .notDir => "Not a directory"
  | .isDir => "Is a directory"
  | .loop => "Too many levels of symbolic links"
  | .exists => "File exists"

/-- The kind of failure a program reports for an error number. -/
def kind : Errno → String
  | .noEntry => "FileNotFoundError"
  | .access => "PermissionError"
  | .notDir => "NotADirectoryError"
  | .isDir => "IsADirectoryError"
  | .exists => "FileExistsError"
  | .noExec | .loop => "OSError"

end Errno

/-- A failure on a path. -/
structure OsError where
  errno : Errno
  path : String
  deriving Repr, Inhabited

/-- The message of a failure: number, description and the path in quotes. -/
def OsError.message (e : OsError) : String :=
  "[Errno " ++ toString e.errno.code ++ "] " ++ e.errno.text ++ ": " ++ Text.quote e.path

namespace Tree

/-- The entry at some names; the top is a directory. -/
def find? (t : Tree) (loc : List String) : Option Node :=
  if loc.isEmpty then some .dir else (t.entries.find? (·.1 == loc)).map (·.2)

/-- Sets the entry at some names, in place when there is one. -/
def put (t : Tree) (loc : List String) (n : Node) : Tree :=
  if t.entries.any (·.1 == loc) then
    { entries := t.entries.map fun e => if e.1 == loc then (loc, n) else e }
  else { entries := t.entries ++ [(loc, n)] }

/-- Adds the missing directories along some names. -/
def makeDirs (t : Tree) (loc : List String) : Tree :=
  (List.range loc.length).foldl (fun t k =>
    let p := loc.take (k + 1)
    if (t.find? p).isSome then t else t.put p .dir) t

/-- Adds a directory and its missing parents. -/
def addDir (t : Tree) (p : String) : Tree := t.makeDirs (parts p)

/-- Adds a file with its missing parent directories. -/
def addFile (t : Tree) (p : String) (bytes : List UInt8) : Tree :=
  let ns := parts p
  (t.makeDirs ns.dropLast).put ns (.file bytes false)

/-- Adds a symbolic link with its missing parent directories. -/
def addLink (t : Tree) (p target : String) : Tree :=
  let ns := parts p
  (t.makeDirs ns.dropLast).put ns (.link target)

/-- Marks a file executable. -/
def setExecutable (t : Tree) (p : String) : Tree :=
  let ns := parts p
  match t.find? ns with
  | some (.file bs _) => t.put ns (.file bs true)
  | _ => t

/-- The names in a directory. -/
def childNames (t : Tree) (dir : List String) : List String :=
  t.entries.filterMap fun (p, _) =>
    match p.reverse with
    | last :: up => if up.reverse == dir then some last else none
    | [] => none

/-- The most links one resolution follows before it gives up with *too many levels of
symbolic links*. -/
def maxLinks : Nat := 40

/-- Walks names from the directory `cur`: the place reached and the entry there
(`none` when the last name is missing). Links are followed except for a last name
when `follow` is false; `links` counts the links followed so far, and one more than
`maxLinks` is a loop. Each step either consumes a name or follows one more link, so
the walk ends. -/
def locateFrom (t : Tree) : Nat → List String → List String → Bool →
    Except Errno (List String × Option Node)
  | _, cur, [], _ => .ok (cur, t.find? cur)
  | links, cur, c :: rest, follow =>
    if c == "" || c == "." then t.locateFrom links cur rest follow
    else if c == ".." then t.locateFrom links cur.dropLast rest follow
    else
      let here := cur ++ [c]
      match t.find? here with
      | none => if rest.isEmpty then .ok (here, none) else .error .noEntry
      | some .dir => t.locateFrom links here rest follow
      | some (.file bs x) => if rest.isEmpty then .ok (here, some (.file bs x)) else .error .notDir
      | some (.link target) =>
        if rest.isEmpty && !follow then .ok (here, some (.link target))
        else if links < maxLinks then
          if target.startsWith "/" then .error .noEntry
          else t.locateFrom (links + 1) cur (Text.splitOnChar target '/' ++ rest) follow
        else .error .loop
termination_by links _ names _ => (maxLinks - links, names.length)

/-- Walks names from the directory `cur`, as `locateFrom` with no link followed yet. -/
def locate (t : Tree) (cur names : List String) (follow : Bool) :
    Except Errno (List String × Option Node) :=
  t.locateFrom 0 cur names follow

/-- The most directories one call of `makeDirsAt` goes up through. -/
def resolveFuel : Nat := 4096

/-- What a path leads to, links followed: its place and entry. -/
def stat (t : Tree) (p : String) : Except Errno (List String × Node) :=
  match t.locate [] (Text.splitOnChar p '/') true with
  | .ok (loc, some n) => .ok (loc, n)
  | .ok (_, none) => .error .noEntry
  | .error e => .error e

/-- What a path given to a program leads to: as `stat`, except that the empty path
names nothing. -/
def statPath (t : Tree) (p : String) : Except Errno (List String × Node) :=
  if p.isEmpty then .error .noEntry else t.stat p

/-- The parent directory of a path, in normal form. -/
def parentOf (p : String) : String :=
  let n := normalize p
  match (parts n).dropLast, anchor n with
  | [], "" => "."
  | [], a => a
  | ps, a => a ++ "/".intercalate ps

/-- Makes a directory and its missing parents, as `mkdir -p` does, without failing on
one that exists: a path that exists but is not a directory, or that passes through a
file, fails. `fuel` bounds the depth. -/
def makeDirsAt (t : Tree) : Nat → String → Except OsError Tree
  | 0, p => .error ⟨.loop, p⟩
  | fuel + 1, p =>
    let n := normalize p
    let here := Text.splitOnChar n '/'
    if n == "." then .ok t
    else
      match t.locate [] here true with
      | .ok (_, some .dir) => .ok t
      | .ok (_, some _) => .error ⟨.exists, n⟩
      | .ok (loc, none) => .ok (t.put loc .dir)
      | .error .noEntry =>
        match t.makeDirsAt fuel (parentOf n) with
        | .ok t' =>
          match t'.locate [] here true with
          | .ok (loc, none) => .ok (t'.put loc .dir)
          | .ok (_, some .dir) => .ok t'
          | .ok (_, some _) => .error ⟨.exists, n⟩
          | .error e => .error ⟨e, n⟩
        | .error e => .error e
      | .error e => .error ⟨e, n⟩

/-- Writes a file, replacing one that is there; links are followed, and a directory
is refused. -/
def writeBytes (t : Tree) (p : String) (bytes : List UInt8) : Except OsError Tree :=
  let n := normalize p
  match t.locate [] (Text.splitOnChar n '/') true with
  | .ok (_, some .dir) => .error ⟨.isDir, n⟩
  | .ok (loc, some (.file _ x)) => .ok (t.put loc (.file bytes x))
  | .ok (loc, _) => .ok (t.put loc (.file bytes false))
  | .error e => .error ⟨e, n⟩

/-- Whether a path leads to a directory. -/
def isDirAt (t : Tree) (p : String) : Bool :=
  match t.stat p with
  | .ok (_, .dir) => true
  | _ => false

/-- The bytes of the file a path leads to. -/
def readBytes (t : Tree) (p : String) : Except OsError (List UInt8) :=
  match t.stat p with
  | .ok (_, .file bs _) => .ok bs
  | .ok _ => .error ⟨.isDir, p⟩
  | .error e => .error ⟨e, p⟩

end Tree

end IacLint.Files
