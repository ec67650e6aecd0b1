import IacLint.Data.Value.Text
import IacLint.Text.Search

/-!
# Resource and variable blocks

An infrastructure document, once read, is a mapping: each block type (`resource`,
`variable`, …) maps to a list of entries, and an entry leads through one mapping level
per label to the block's body. A body is recognized by its start-line mark, and its
keys are the block's attributes.

Only expressions with a static value are kept as attribute values. The reader writes
every reference, call or interpolation as text holding the marker `${`; text whose only
`${` come from the escape `$${` is a literal, and the escape then stands for `${`.
Quotes that the reader left around a literal are dropped.

Labels, attribute names and the keys of mappings inside an expression are named by
writing them as text, and a value of a kind an expression may not hold (a set, a tuple, a
date, bytes) is written as text to report it. Writing fails on an integer of more digits
than text conversion allows, and that failure ends the reading of the whole document with
the conversion's complaint. An expression is resolved part by part in order and stops at
its first failure, so a part that cannot be written counts only when nothing before it in
the expression is found not static. Every failure of the walk and of the blocks is this
one complaint, so the order in which they are met does not change the outcome.

## Main definitions

* `unquote`, `keyName` — a key written as text, without surrounding double quotes
* `isLiteralText`, `resolveLiteral` — the static value of an expression, or why it has none
* `Block` — a resource or variable block: labels, resolved attributes, all names
* `Block.ofBody` — the block of a body
* `labelled` — the bodies below an entry, with their labels
* `blocksOf` — the resource and variable blocks of a document, by start line
-/

namespace IacLint.Terraform

open IacLint.Data

/-- The two keys that mark a body's first and last line. -/
def metaKeys : List String := ["__start_line__", "__end_line__"]

/-- Whether a key is one of the line marks. -/
def isMetaKey : Value → Bool
  | .str s => metaKeys.contains s
  | _ => false

/-- Drops one pair of double quotes around a text of at least two characters. -/
def unquote (s : String) : String :=
  let cs := s.toList
  if cs.length ≥ 2 ∧ cs.head? = some '"' ∧ cs.getLast? = some '"' then
    String.ofList ((cs.drop 1).dropLast)
  else s

/-- The name a key stands for: the key written as text, unquoted. -/
def keyName (k : Value) : Except String String := unquote <$> k.plainText

/-- The interpolation marker. -/
def marker : String := "$\x7b"

/-- The escape that writes the marker literally. -/
def escapedMarker : String := "$$\x7b"

/-- Whether a text is free of interpolation: no `${` remains once every escape `$${`
is removed. -/
def isLiteralText (s : String) : Bool := !Text.occursIn marker (Text.replaceAll s escapedMarker "")

/-- Why an expression has no static value. -/
inductive ResolveFailure where
  /-- Some part of it is a reference, a call, an interpolation, or a value of another kind. -/
  | dynamic
  /-- A part of it cannot be written as text. -/
  | unwritable
  deriving DecidableEq, Repr

mutual

/-- The static value of an expression, with text unquoted and escapes turned into the
marker, or why it has none. A value of a kind an expression may not hold has none once it
is written as text. -/
def resolveLiteral : Value → Except ResolveFailure Value
  | .null => pure .null
  | .bool b => pure (.bool b)
  | .int n => pure (.int n)
  | .float x => pure (.float x)
  | .str s =>
    if isLiteralText s then pure (.str (Text.replaceAll (unquote s) escapedMarker marker))
    else throw .dynamic
  | .list xs => .list <$> resolveAll xs
  | .map kvs => .map <$> resolveEntries [] kvs
  | v => throw (if v.writable then .dynamic else .unwritable)

/-- The static values of the elements of a list, in order. -/
def resolveAll : List Value → Except ResolveFailure (List Value)
  | [] => pure []
  | x :: xs => do
    let v ← resolveLiteral x
    let vs ← resolveAll xs
    pure (v :: vs)

/-- The entries of a mapping added to `es`, in order: the line marks are passed over, and
each other key is named before its value is resolved. -/
def resolveEntries (es : Entries) : List (Value × Value) → Except ResolveFailure Entries
  | [] => pure es
  | (k, v) :: kvs =>
    if isMetaKey k then resolveEntries es kvs
    else do
      let name ← (keyName k).mapError fun _ => .unwritable
      let r ← resolveLiteral v
      resolveEntries (Entries.insert es (.str name) r) kvs

end

/-- Removing the escape of `$$${{` brings the `$` before it next to the `{` after it, so the
text counts as not static, although the escape read in its place gives the value `$${{`. -/
theorem resolveLiteral_spliced_marker :
    resolveLiteral (.str "$$$\x7b\x7b") = .error .dynamic ∧
      Text.replaceAll (unquote "$$$\x7b\x7b") escapedMarker marker = "$$\x7b\x7b" := by
  have notLiteral : isLiteralText "$$$\x7b\x7b" = false := by decide +kernel
  refine ⟨?_, by decide +kernel⟩
  rw [resolveLiteral, notLiteral]
  rfl

/-- The start line of a block as the document gives it: an integer, or a truth value
(which counts as 0 or 1). -/
inductive LineMark where
  | num (n : Int)
  | flag (b : Bool)
  deriving Repr, Inhabited

/-- The line number a mark stands for. -/
def LineMark.toInt : LineMark → Int
  | .num n => n
  | .flag b => if b then 1 else 0

/-- The line a body starts on: its start-line mark when that is an integer or a truth value,
else `0`. -/
def startLine (body : Entries) : LineMark :=
  match Entries.get? body "__start_line__" with
  | some (.int n) => .num n
  | some (.bool t) => .flag t
  | _ => .num 0

/-- A resource or variable block. -/
structure Block where
  /-- The block type: `resource` or `variable`. -/
  kind : String
  /-- The labels: type and name for a resource, the name for a variable. -/
  labels : List String
  /-- The attributes with a static value, by unquoted name. -/
  attributes : List (String × Value) := []
  /-- The names whose expression has no static value, in order. -/
  unresolved : List String := []
  /-- Every attribute name in order, static or not. -/
  names : List String := []
  /-- The line the block starts on. -/
  line : LineMark := .num 0
  deriving Inhabited

namespace Block

/-- The first label: a resource's type. -/
def type (b : Block) : String := b.labels.head?.getD ""

/-- The last label: the block's name. -/
def name (b : Block) : String := b.labels.getLast?.getD ""

/-- The static value of an attribute. -/
def get? (b : Block) (n : String) : Option Value := b.attributes.lookup n

/-- Whether an attribute is declared, static or not. -/
def has (b : Block) (n : String) : Bool := b.names.contains n

/-- Records one attribute: its name, and its value or that it has none. A repeated name
keeps the first place among the values and takes the last value. An expression with a part
that cannot be written ends the block with the complaint. -/
def addAttribute (b : Block) (n : String) (e : Value) : Except String Block :=
  let b := { b with names := b.names ++ [n] }
  match resolveLiteral e with
  | .ok v =>
    if b.attributes.any (·.1 = n) then
      pure { b with attributes := b.attributes.map fun kv => if kv.1 = n then (n, v) else kv }
    else pure { b with attributes := b.attributes ++ [(n, v)] }
  | .error .dynamic => pure { b with unresolved := b.unresolved ++ [n] }
  | .error .unwritable => throw Number.writeLimitComplaint

/-- The block of a body: every key but the line marks is an attribute, named by the key
written as text. -/
def ofBody (kind : String) (labels : List String) (body : Entries) : Except String Block := do
  let b ← body.foldlM (fun (b : Block) kv =>
    if isMetaKey kv.1 then pure b
    else do
      let n ← keyName kv.1
      b.addAttribute n kv.2) { kind, labels : Block }
  pure { b with line := startLine body }

end Block

/-- Walks `depth` levels of label keys from `entry` down to block bodies, collecting
`(labels, body)`. A mapping with a start-line mark above the last level is a block with
too few labels and is skipped; a line-mark key is never a label. -/
def labelled : Nat → List String → Value → Except String (List (List String × Entries))
  | 0, pre, .map kvs =>
    pure (if Entries.hasKey kvs (.str "__start_line__") then [(pre, kvs)] else [])
  | d + 1, pre, .map kvs =>
    if Entries.hasKey kvs (.str "__start_line__") then pure []
    else kvs.flatMapM fun kv =>
      if isMetaKey kv.1 then pure []
      else do
        let k ← keyName kv.1
        labelled d (pre ++ [k]) kv.2
  | _, _, _ => pure []

/-- The block types that are checked, with their number of labels. -/
def blockLabelCounts : List (String × Nat) := [("resource", 2), ("variable", 1)]

/-- The entries under a block type: a list as it is, a missing or empty value as none,
any other value as the only entry. -/
def entriesOf : Option Value → List Value
  | none | some .null => []
  | some (.list xs) => xs
  | some v => [v]

/-- The resource and variable blocks of a document, sorted by start line; blocks on the
same line keep their order, resources before variables. -/
def blocksOf (doc : Entries) : Except String (List Block) := do
  let all ← blockLabelCounts.flatMapM fun (kind, n) =>
    (entriesOf (Entries.get? doc kind)).flatMapM fun e => do
      let bodies ← labelled n [] e
      bodies.mapM fun (labels, body) => Block.ofBody kind labels body
  pure (all.mergeSort fun a b => a.line.toInt ≤ b.line.toInt)

end IacLint.Terraform
