import IacLint.Files.Tree
import IacLint.Data.Value.Text
import IacLint.Text.CodeRanges
import IacLint.Text.Utf8

/-!
# Snapshots of a workspace

A snapshot describes a file tree as one JSON object:

* `dirs`: directories to make, possibly empty;
* `files`: path → content, as text (written as UTF-8) or as `{"hex": "..."}` for raw
  bytes; parent directories are made;
* `symlinks`: link path → target;
* `executable`: files to mark executable.

They are applied in that order, so a link may replace a file and only files are
marked executable. Malformed parts are skipped.

## Main definitions

* `bytesOfContent` — the bytes of a file's content
* `Tree.ofSnapshot` — the tree a snapshot describes
-/

namespace IacLint.Files

open IacLint.Data

/-- The bytes a run of hexadecimal digits spells, two digits a byte; a pair that is not
two digits is skipped, as is a last odd digit. -/
def bytesOfHex : List Char → List UInt8
  | a :: b :: rest =>
    let byte := match Text.CodeRanges.hexDigit? a, Text.CodeRanges.hexDigit? b with
      | some x, some y => [(x * 16 + y).toUInt8]
      | _, _ => []
    byte ++ bytesOfHex rest
  | _ => []

/-- The bytes of a file's content: text as UTF-8, or the bytes of `{"hex": ...}`. -/
def bytesOfContent : Value → List UInt8
  | .str s => Text.encode s
  | .map kvs =>
    match Entries.get? kvs "hex" with
    | some (.str h) => bytesOfHex h.toList
    | _ => []
  | _ => []

/-- The texts of a list value; other items are skipped. -/
def textsOf : Option Value → List String
  | some (.list xs) => xs.filterMap fun v => match v with
    | .str s => some s
    | _ => none
  | _ => []

/-- The entries of a map value. -/
def pairsOf : Option Value → Entries
  | some (.map kvs) => kvs
  | _ => []

/-- The tree a snapshot describes. -/
def Tree.ofSnapshot (v : Value) : Tree :=
  let field := fun (k : String) => match v with
    | .map kvs => Entries.get? kvs k
    | _ => none
  let t : Tree := {}
  let t := (textsOf (field "dirs")).foldl Tree.addDir t
  let t := (pairsOf (field "files")).foldl (fun t (k, c) => t.addFile k.plain (bytesOfContent c)) t
  let t := (pairsOf (field "symlinks")).foldl (fun t (k, target) => t.addLink k.plain target.plain) t
  (textsOf (field "executable")).foldl Tree.setExecutable t

end IacLint.Files
