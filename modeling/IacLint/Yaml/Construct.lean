import IacLint.Yaml.Parse
import IacLint.Yaml.Scalar
import IacLint.Text.Utf8

/-!
# Values of a node graph

The last stage of loading YAML: the node graph of a document becomes a value. Every
node is constructed once, so an alias gives the very object its anchor's node gave,
and collections are objects that other objects refer to by number, like the nodes.

Construction is breadth first. A sequence, mapping, set, ordered map or list of pairs
is made empty when it is first reached and filled later, in rounds: the collections
reached while filling one round are filled in the next. That is what lets a
collection contain itself. A collection whose tag starts with `!` (a local tag) is
made at once with its contents, so reaching it again while making it is an error.

Before a mapping is filled, its merge keys (`<<`) are replaced by the entries they
merge: those of a mapping, or of each mapping of a sequence with the earlier ones
winning; merged entries go before the mapping's own, so its own entries win. The node
graph itself is changed by this, as is the tag of a value key (`=`) in a mapping, which
becomes text.

Keys must be scalar values; a key equal to an earlier one (as numbers, texts, dates,
or the very same object) keeps the earlier key's place and takes the later value.

## Main definitions

* `Obj` — objects under construction
* `Builder`, `Build` — the state of construction
* `constructObject` — the object of a node
* `constructDocument` — the value of a document's root node
-/

namespace IacLint.Yaml

open IacLint.Data

/-- An object under construction. Collections refer to their members by number. -/
inductive Obj where
  /-- A scalar value. -/
  | atom (v : Value)
  | list (items : List Nat)
  | dict (entries : List (Nat × Nat))
  | set (items : List Nat)
  /-- A list of key and value pairs, as ordered maps and pair lists are. -/
  | pairs (items : List (Nat × Nat))
  deriving Inhabited

/-- How a collection made empty is filled later. -/
inductive Filling where
  | seq
  | map
  | set
  | pairs
  deriving Inhabited

/-- The state of construction. -/
structure Builder where
  /-- The node graph, as merging changes it. -/
  nodes : Array Node
  /-- The objects made so far; object 0 is the shared not-a-number. -/
  heap : Array Obj := #[.atom (.float (0.0 / 0.0))]
  /-- The object of each node constructed so far. -/
  built : Array (Option Nat)
  /-- The nodes being constructed. -/
  building : List Nat := []
  /-- The collections to fill in the next round: node, object and how. -/
  pending : List (Nat × Nat × Filling) := []
  /-- A bound on the steps of every loop over a mapping's entries. -/
  limit : Nat

/-- The construction monad. -/
abbrev Build := StateT Builder (Except LoadError)

/-- The tag of the merge key. -/
def mergeTag : String := coreTag "merge"

/-- The tag of the value key. -/
def valueTag : String := coreTag "value"

/-- The failure of a recursion too deep to finish. -/
def tooDeep : LoadError := .raised "RecursionError" "maximum recursion depth exceeded"

/-- The node numbered `n`. -/
def nodeAt (n : Nat) : Build Node := return (← get).nodes.getD n default

/-- The entries of the mapping node `n` (none for other nodes). -/
def entriesOf (n : Nat) : Build (List (Nat × Nat)) := do
  match (← nodeAt n).body with
  | .map pairs => return pairs
  | _ => return []

/-- Replaces the entries of the mapping node `n`. -/
def setEntries (n : Nat) (pairs : List (Nat × Nat)) : Build Unit :=
  modify fun b => { b with nodes := b.nodes.modify n fun node => { node with body := .map pairs } }

/-- Replaces the tag of node `n`. -/
def setTag (n : Nat) (tag : String) : Build Unit :=
  modify fun b => { b with nodes := b.nodes.modify n fun node => { node with tag := tag } }

/-- The object numbered `r`. -/
def objAt (r : Nat) : Build Obj := return (← get).heap.getD r default

/-- Adds an object and gives its number. -/
def alloc (o : Obj) : Build Nat := do
  let b ← get
  set { b with heap := b.heap.push o }
  return b.heap.size

/-- Replaces the object numbered `r`. -/
def setObj (r : Nat) (o : Obj) : Build Unit :=
  modify fun b => { b with heap := b.heap.setIfInBounds r o }

/-- Whether an object may be a key: scalar values may, collections may not. -/
def Obj.isKey : Obj → Bool
  | .atom _ => true
  | _ => false

/-- Whether the objects `r` and `s` are one key: the same object, or equal values. -/
def sameKeyObj (r s : Nat) : Build Bool := do
  if r == s then return true
  match ← objAt r, ← objAt s with
  | .atom a, .atom b => return a.sameKey b
  | _, _ => return false

/-- Adds the entry `(k, v)`: an entry whose key is the same keeps its place and key and
takes the new value; otherwise the entry goes last. -/
def insertEntry (entries : List (Nat × Nat)) (k v : Nat) : Build (List (Nat × Nat)) := do
  for e in entries do
    if ← sameKeyObj e.1 k then
      return ← entries.mapM fun e' => do
        if ← sameKeyObj e'.1 k then return (e'.1, v) else return e'
  return entries ++ [(k, v)]

/-- Replaces the merge keys of the mapping node `n` by the entries they merge, merged
entries first, and turns value keys into text keys. The entries are read afresh at
each step, since merging a mapping that merges this one changes them. -/
def flatten : Nat → Nat → Build Unit
  | 0, _ => throw tooDeep
  | fuel + 1, n => do
    let mut merged : List (Nat × Nat) := []
    let mut index := 0
    for _ in List.range (← get).limit do
      let pairs ← entriesOf n
      match pairs[index]? with
      | none => break
      | some (k, v) =>
        let keyTag := (← nodeAt k).tag
        if keyTag == mergeTag then
          setEntries n (pairs.eraseIdx index)
          match (← nodeAt v).body with
          | .map _ =>
            flatten fuel v
            merged := merged ++ (← entriesOf v)
          | .seq items =>
            let mut parts : List (List (Nat × Nat)) := []
            for s in items do
              match (← nodeAt s).body with
              | .map _ =>
                flatten fuel s
                parts := parts ++ [← entriesOf s]
              | _ => throw .invalid
            merged := merged ++ parts.reverse.flatten
          | .scalar _ => throw .invalid
        else
          if keyTag == valueTag then setTag k strTag
          index := index + 1
    if !merged.isEmpty then setEntries n (merged ++ (← entriesOf n))

/-- The text of a scalar node; a mapping with a value key stands for the text of that
key's value. -/
def scalarText : Nat → Nat → Build String
  | 0, _ => throw tooDeep
  | fuel + 1, n => do
    match (← nodeAt n).body with
    | .scalar s => return s
    | .map pairs =>
      for (k, v) in pairs do
        if (← nodeAt k).tag == valueTag then return ← scalarText fuel v
      throw .invalid
    | .seq _ => throw .invalid

/-- The object of a scalar node by its tag. -/
def constructScalar (fuel n : Nat) (tag : String) : Build Nat := do
  let text ← scalarText fuel n
  if tag == coreTag "null" then alloc (.atom .null)
  else if tag == coreTag "bool" then alloc (.atom (.bool (← readYamlBool text)))
  else if tag == coreTag "int" then alloc (.atom (.int (← readYamlInt text)))
  else if tag == coreTag "float" then
    match ← readYamlFloat text with
    | .number x => alloc (.atom (.float x))
    | .sharedNaN => return 0
  else if tag == coreTag "binary" then
    if !text.toList.all (·.toNat < 128) then throw .invalid
    match decodeBase64? (Text.encode text) with
    | some bs => alloc (.atom (.bytes bs))
    | none => throw .invalid
  else if tag == coreTag "timestamp" then
    match (← nodeAt n).body with
    | .scalar s => alloc (.atom (← readTimestamp s))
    | _ => throw (.raised "TypeError" "expected string or bytes-like object, got 'list'")
  else alloc (.atom (.str text))

mutual

/-- The entries of a mapping node, merge keys replaced first: each key constructed and
checked to be a scalar value, then its value, and the entry added as `insertEntry`
says. -/
def constructEntries : Nat → Nat → Build (List (Nat × Nat))
  | 0, _ => throw tooDeep
  | fuel + 1, n => do
    if let .map _ := (← nodeAt n).body then flatten (← get).limit n
    match (← nodeAt n).body with
    | .map pairs =>
      let mut acc : List (Nat × Nat) := []
      for (k, v) in pairs do
        let kr ← constructObject fuel k
        if !(← objAt kr).isKey then throw .invalid
        let vr ← constructObject fuel v
        acc ← insertEntry acc kr vr
      return acc
    | _ => throw .invalid

/-- The objects of the items of a sequence node. -/
def constructItems : Nat → List Nat → Build (List Nat)
  | 0, _ => throw tooDeep
  | _ + 1, [] => return []
  | fuel + 1, n :: rest => do
    let r ← constructObject fuel n
    return r :: (← constructItems fuel rest)

/-- The object of node `n`, constructed once: a collection of a known tag is made
empty and filled in a later round; a node of a local tag (starting with `!`) is made at
once; any other tag has no constructor. -/
def constructObject : Nat → Nat → Build Nat
  | 0, _ => throw tooDeep
  | fuel + 1, n => do
    let b ← get
    if let some (some r) := b.built[n]? then return r
    if b.building.contains n then throw .invalid
    set { b with building := n :: b.building }
    let node ← nodeAt n
    let later (o : Obj) (how : Filling) : Build Nat := do
      let r ← alloc o
      modify fun b => { b with pending := b.pending ++ [(n, r, how)] }
      return r
    let tag := node.tag
    let r ← if [coreTag "null", coreTag "bool", coreTag "int", coreTag "float", coreTag "binary",
        coreTag "timestamp", coreTag "str"].contains tag then constructScalar fuel n tag
      else if tag == coreTag "seq" then later (.list []) .seq
      else if tag == coreTag "map" then later (.dict []) .map
      else if tag == coreTag "set" then later (.set []) .set
      else if tag == coreTag "omap" || tag == coreTag "pairs" then later (.pairs []) .pairs
      else if tag.startsWith "!" then
        match node.body with
        | .scalar s => alloc (.atom (.str s))
        | .seq items => alloc (.list (← constructItems fuel items))
        | .map _ => alloc (.dict (← constructEntries fuel n))
      else throw .invalid
    modify fun b => { b with built := b.built.setIfInBounds n (some r),
                             building := b.building.erase n }
    return r

end

/-- The key and value of each item of an ordered map or pair list: every item must be a
mapping of exactly one entry. -/
def constructPairs (fuel : Nat) (items : List Nat) : Build (List (Nat × Nat)) := do
  let mut acc : List (Nat × Nat) := []
  for s in items do
    match (← nodeAt s).body with
    | .map [(k, v)] =>
      let kr ← constructObject fuel k
      let vr ← constructObject fuel v
      acc := acc ++ [(kr, vr)]
    | _ => throw .invalid
  return acc

/-- Fills a collection made empty: its node must have the collection's shape. -/
def fill (fuel : Nat) (job : Nat × Nat × Filling) : Build Unit := do
  let (n, r, how) := job
  match how with
  | .seq =>
    match (← nodeAt n).body with
    | .seq items => setObj r (.list (← constructItems fuel items))
    | _ => throw .invalid
  | .map => setObj r (.dict (← constructEntries fuel n))
  | .set => setObj r (.set ((← constructEntries fuel n).map (·.1)))
  | .pairs =>
    match (← nodeAt n).body with
    | .seq items => setObj r (.pairs (← constructPairs fuel items))
    | _ => throw .invalid

/-- The object of the root node, every collection filled round by round. -/
def constructRoot (root : Nat) : Build Nat := do
  let fuel := 2 * (← get).limit
  let r ← constructObject fuel root
  for _ in List.range ((← get).nodes.size + 1) do
    let jobs := (← get).pending
    if jobs.isEmpty then break
    modify fun b => { b with pending := [] }
    for job in jobs do fill fuel job
  return r

/-- The value of object `r`; a collection met again inside itself is cut short as an
empty collection of its kind. -/
def valueOf (heap : Array Obj) : Nat → List Nat → Nat → Value
  | 0, _, _ => .null
  | fuel + 1, path, r =>
    let o := heap.getD r default
    let inner := r :: path
    if path.contains r then
      match o with
      | .atom v => v
      | .list _ | .pairs _ => .list []
      | .dict _ => .map []
      | .set _ => .set []
    else
      match o with
      | .atom v => v
      | .list items => .list (items.map (valueOf heap fuel inner))
      | .dict entries => .map (entries.map fun e => (valueOf heap fuel inner e.1, valueOf heap fuel inner e.2))
      | .set items => .set (items.map (valueOf heap fuel inner))
      | .pairs items =>
        .list (items.map fun e => .tuple [valueOf heap fuel inner e.1, valueOf heap fuel inner e.2])

/-- A bound on the steps of construction for a node graph. -/
def stepLimit (nodes : Array Node) : Nat :=
  nodes.foldl (fun acc node =>
    acc + 1 + match node.body with
      | .scalar _ => 0
      | .seq items => items.length
      | .map pairs => 2 * pairs.length) 16

/-- The value of the document whose node graph is `nodes`, rooted at `root`. -/
def constructDocument (nodes : Array Node) (root : Nat) : Except LoadError Value := do
  let limit := 4 * stepLimit nodes
  let b : Builder := { nodes, built := Array.replicate nodes.size none, limit }
  let (r, b) ← (constructRoot root).run b
  return valueOf b.heap (b.heap.size + 1) [] r

end IacLint.Yaml
