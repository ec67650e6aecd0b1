import IacLint.Files.Tree

/-!
# Finding the files to scan

The files a scan reads are found by a depth-first walk from a root. A root that is not a
directory stands for itself: it is the only file, when its suffix is wanted, and a root
that does not exist is an error. Inside a directory the names are visited in code-point
order; the walk descends into real directories only, never through a link to one, and
yields every entry that leads to a file (a link to a file included, a dangling link
not) whose suffix is wanted. Paths are shown below the root's normal form.

## Main definitions

* `fileAt` — what an entry that is not a directory adds to the walk
* `filesIn` — the wanted files below a directory
* `filesUnder` — the wanted files of a root, or the failure on the root
-/

namespace IacLint.Files

/-- Sorts names in code-point order. -/
def sortNames (ns : List String) : List String := ns.mergeSort fun a b => decide (a ≤ b)

/-- What an entry that is not a directory itself adds to the walk, whatever its suffix:
it is asked whether it leads to a file by resolving its whole path from the top, so the
links on the way to the root count toward the limit as well. A file with a wanted suffix
is its path; a missing target or anything else adds nothing; any other failure (a loop of
links, a path through a file) ends the walk, naming the entry as the directory listing
does (`./name` in the top directory). -/
def fileAt (t : Tree) (exts : List String) (shown name : String) : Except OsError (List String) :=
  let path := join shown name
  match t.stat path with
  | .ok (_, .file _ _) => .ok (if exts.contains (suffix path) then [path] else [])
  | .ok _ | .error .noEntry => .ok []
  | .error e => .error ⟨e, if shown == "." then "./" ++ name else path⟩

/-- The files below the directory at `dir`, shown below `shown`, whose suffix is in
`exts`; `fuel` bounds the depth. Names are visited in code-point order, real directories
are walked into, and every other entry is checked by `fileAt`. -/
def filesIn (t : Tree) (exts : List String) : Nat → List String → String →
    Except OsError (List String)
  | 0, _, _ => .ok []
  | fuel + 1, dir, shown =>
    (sortNames (t.childNames dir)).flatMapM fun name =>
      match t.find? (dir ++ [name]) with
      | some .dir => filesIn t exts fuel (dir ++ [name]) (join shown name)
      | _ => fileAt t exts shown name

/-- The files of a scan from `root` whose suffix is in `exts`, in walk order, or the
failure on a root that cannot be read or on an entry that cannot be checked. -/
def filesUnder (t : Tree) (root : String) (exts : List String) : Except OsError (List String) :=
  let p := normalize root
  match t.stat p with
  | .ok (dir, .dir) => filesIn t exts (t.entries.length + 1) dir p
  | .ok _ => .ok (if exts.contains (suffix p) then [p] else [])
  | .error e => .error ⟨e, p⟩

end IacLint.Files
