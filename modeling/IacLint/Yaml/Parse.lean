import IacLint.Yaml.Scan

/-!
# Events and nodes of a YAML document

The second and third stages of loading YAML. The parser turns tokens into events
(start and end of documents, sequences and mappings; scalars; aliases) by a state
machine with a stack of states to return to, as the YAML grammar prescribes for block
and flow collections. The composer turns the events of the first document into a
graph of nodes: an anchor names a node, and an alias stands for the node its anchor
named, so nodes may be shared and even contain themselves.

A scalar without a tag (or with the bare tag `!`) gets its tag from its text when it
was written plain, and is text otherwise (`implicit` records which); sequences and
mappings without a tag are plain sequences and mappings.

Reading is lazy: only the first document's events are made, and the parser looks no
further than the token after that document.

## Main definitions

* `Event` — the events
* `Node`, `NodeBody` — nodes of the graph, by number
* `Loader` — the parser's and composer's state
* `composeFirst` — the node graph of the first document of a text
-/

namespace IacLint.Yaml

/-- An event of a YAML stream. -/
inductive Event where
  | streamStart
  | streamEnd
  | documentStart
  | documentEnd
  | alias (anchor : String)
  /-- A scalar: anchor, tag, whether its tag may be found from a plain text and from
  any text, and the text. -/
  | scalar (anchor tag : Option String) (implicit : Bool × Bool) (value : String)
  | sequenceStart (anchor tag : Option String) (implicit : Bool)
  | sequenceEnd
  | mappingStart (anchor tag : Option String) (implicit : Bool)
  | mappingEnd
  deriving Repr, Inhabited

/-- The anchor an event names, if any. -/
def Event.anchor? : Event → Option String
  | .scalar a _ _ _ | .sequenceStart a _ _ | .mappingStart a _ _ => a
  | _ => none

/-- The states of the parser. -/
inductive ParseState where
  | streamStart
  | implicitDocumentStart
  | documentStart
  | documentEnd
  | documentContent
  | blockNode
  | blockSequenceFirstEntry
  | blockSequenceEntry
  | indentlessSequenceEntry
  | blockMappingFirstKey
  | blockMappingKey
  | blockMappingValue
  | flowSequenceFirstEntry
  | flowSequenceEntry
  | flowSequenceEntryMappingKey
  | flowSequenceEntryMappingValue
  | flowSequenceEntryMappingEnd
  | flowMappingFirstKey
  | flowMappingKey
  | flowMappingValue
  | flowMappingEmptyValue
  deriving Repr, Inhabited, BEq

/-- What a node holds. -/
inductive NodeBody where
  | scalar (value : String)
  /-- The items, as node numbers. -/
  | seq (items : List Nat)
  /-- The key and value pairs, as node numbers. -/
  | map (pairs : List (Nat × Nat))
  deriving Repr, Inhabited

/-- A node of a document: its resolved tag and its content. -/
structure Node where
  tag : String
  body : NodeBody
  deriving Repr, Inhabited

/-- The state of the parser and the composer. -/
structure Loader where
  scanner : Scanner
  /-- The event made but not yet taken. -/
  current : Option Event := none
  /-- The state that makes the next event; none after the end of the stream. -/
  state : Option ParseState := some .streamStart
  /-- The states to return to. -/
  states : List ParseState := []
  /-- The tag handles of the current document. -/
  tagHandles : List (String × String) := []
  /-- The nodes composed so far, by number. -/
  nodes : Array Node := #[]
  /-- The anchors of the current document and the nodes they name. -/
  anchors : List (String × Nat) := []
  deriving Inhabited

/-- The parsing monad. -/
abbrev Parse := StateT Loader (Except LoadError)

/-- The tag handles every document knows. -/
def defaultTagHandles : List (String × String) := [("!", "!"), ("!!", "tag:yaml.org,2002:")]

/-- The tag of text. -/
def strTag : String := "tag:yaml.org,2002:str"

/-- The tag of sequences. -/
def seqTag : String := "tag:yaml.org,2002:seq"

/-- The tag of mappings. -/
def mapTag : String := "tag:yaml.org,2002:map"

/-- Runs a scanner step on the loader's scanner. -/
def onScanner (m : Scan α) : Parse α := fun l => do
  let (a, s) ← m.run l.scanner
  pure (a, { l with scanner := s })

/-- The next token; the end of the queue is an error. -/
def peekTok : Parse Tok := do
  match ← onScanner peekToken with
  | some t => pure t
  | none => throw .invalid

/-- Takes the next token. -/
def takeTok : Parse Tok := do
  match ← onScanner takeToken with
  | some t => pure t
  | none => throw .invalid

/-- Whether the next token satisfies `p`. -/
def nextTokIs (p : Tok → Bool) : Parse Bool := do
  match ← onScanner peekToken with
  | some t => pure (p t)
  | none => pure false

namespace Tok

def isDirective : Tok → Bool | .directive _ _ => true | _ => false
def isDocumentStart : Tok → Bool | .documentStart => true | _ => false
def isDocumentEnd : Tok → Bool | .documentEnd => true | _ => false
def isStreamEnd : Tok → Bool | .streamEnd => true | _ => false
def isBlockEntry : Tok → Bool | .blockEntry => true | _ => false
def isBlockEnd : Tok → Bool | .blockEnd => true | _ => false
def isKey : Tok → Bool | .key => true | _ => false
def isValue : Tok → Bool | .value => true | _ => false
def isFlowEntry : Tok → Bool | .flowEntry => true | _ => false
def isFlowSequenceEnd : Tok → Bool | .flowSequenceEnd => true | _ => false
def isFlowMappingEnd : Tok → Bool | .flowMappingEnd => true | _ => false

end Tok

/-- Sets the next state. -/
def goTo (st : ParseState) : Parse Unit := modify fun l => { l with state := some st }

/-- Saves a state to return to. -/
def pushState (st : ParseState) : Parse Unit := modify fun l => { l with states := st :: l.states }

/-- Returns to the last saved state. -/
def popState : Parse Unit := modify fun l =>
  match l.states with
  | st :: rest => { l with state := some st, states := rest }
  | [] => { l with state := none }

/-- The empty scalar that stands for a missing node. -/
def emptyScalar : Event := .scalar none none (true, false) ""

/-- A node: an alias, or optional anchor and tag (in either order) followed by a
scalar, the start of a collection, or nothing (an empty scalar, when an anchor or tag
was given). `block` allows block collections, `indentless` a sequence whose entries
are not indented. -/
def parseNode (block indentless : Bool) : Parse Event := do
  if let .alias name ← peekTok then
    discard takeTok
    popState
    return .alias name
  let mut anchor : Option String := none
  let mut tag : Option (Option String × String) := none
  match ← peekTok with
  | .anchor a =>
    discard takeTok
    anchor := some a
    if let .tag h s ← peekTok then
      discard takeTok
      tag := some (h, s)
  | .tag h s =>
    discard takeTok
    tag := some (h, s)
    if let .anchor a ← peekTok then
      discard takeTok
      anchor := some a
  | _ => pure ()
  let handles := (← get).tagHandles
  let fullTag : Option String ← match tag with
    | none => pure none
    | some (none, s) => pure (some s)
    | some (some h, s) =>
      match handles.lookup h with
      | some p => pure (some (p ++ s))
      | none => throw .invalid
  let implicit := fullTag.isNone || fullTag == some "!"
  if indentless && (← nextTokIs Tok.isBlockEntry) then
    goTo .indentlessSequenceEntry
    return .sequenceStart anchor fullTag implicit
  match ← peekTok with
  | .scalar text plain =>
    discard takeTok
    let imp : Bool × Bool :=
      if (plain && fullTag.isNone) || fullTag == some "!" then (true, false)
      else if fullTag.isNone then (false, true) else (false, false)
    popState
    return .scalar anchor fullTag imp text
  | .flowSequenceStart =>
    goTo .flowSequenceFirstEntry
    return .sequenceStart anchor fullTag implicit
  | .flowMappingStart =>
    goTo .flowMappingFirstKey
    return .mappingStart anchor fullTag implicit
  | .blockSequenceStart =>
    if block then
      goTo .blockSequenceFirstEntry
      return .sequenceStart anchor fullTag implicit
  | .blockMappingStart =>
    if block then
      goTo .blockMappingFirstKey
      return .mappingStart anchor fullTag implicit
  | _ => pure ()
  if anchor.isSome || fullTag.isSome then
    popState
    return .scalar anchor fullTag (implicit, false) ""
  throw .invalid

/-- The directives before an explicit document: at most one `%YAML` with major version
1, tag handles at most once each; the default handles fill the rest. -/
def processDirectives : Parse Unit := do
  let mut version : Option (Nat × Nat) := none
  let mut handles : List (String × String) := []
  for _ in List.range ((← get).scanner.fuel) do
    match ← peekTok with
    | .directive _ d =>
      discard takeTok
      match d with
      | .version major minor =>
        if version.isSome || major != 1 then throw .invalid
        version := some (major, minor)
      | .tagHandle h p =>
        if (handles.lookup h).isSome then throw .invalid
        handles := handles ++ [(h, p)]
      | .other => pure ()
    | _ => break
  let missing := defaultTagHandles.filter fun (h, _) => (handles.lookup h).isNone
  modify fun l => { l with tagHandles := handles ++ missing }

/-- A document start: stray document-end markers are skipped; then the end of the
stream, or directives and an explicit `---`. -/
def parseDocumentStart : Parse Event := do
  for _ in List.range ((← get).scanner.fuel) do
    if ← nextTokIs Tok.isDocumentEnd then discard takeTok else break
  if ← nextTokIs Tok.isStreamEnd then
    discard takeTok
    modify fun l => { l with state := none }
    return .streamEnd
  processDirectives
  if !(← nextTokIs Tok.isDocumentStart) then throw .invalid
  discard takeTok
  pushState .documentEnd
  goTo .documentContent
  return .documentStart

/-- The next event, made by the current state. -/
def runState (st : ParseState) : Parse Event := do
  match st with
  | .streamStart =>
    discard takeTok
    goTo .implicitDocumentStart
    return .streamStart
  | .implicitDocumentStart =>
    if ← nextTokIs fun t => t.isDirective || t.isDocumentStart || t.isStreamEnd then
      parseDocumentStart
    else
      modify fun l => { l with tagHandles := defaultTagHandles }
      pushState .documentEnd
      goTo .blockNode
      return .documentStart
  | .documentStart => parseDocumentStart
  | .documentEnd =>
    if ← nextTokIs Tok.isDocumentEnd then discard takeTok
    goTo .documentStart
    return .documentEnd
  | .documentContent =>
    if ← nextTokIs fun t => t.isDirective || t.isDocumentStart || t.isDocumentEnd || t.isStreamEnd then
      popState
      return emptyScalar
    parseNode true false
  | .blockNode => parseNode true false
  | .blockSequenceFirstEntry | .blockSequenceEntry =>
    if st == .blockSequenceFirstEntry then discard takeTok
    if ← nextTokIs Tok.isBlockEntry then
      discard takeTok
      if !(← nextTokIs fun t => t.isBlockEntry || t.isBlockEnd) then
        pushState .blockSequenceEntry
        return ← parseNode true false
      goTo .blockSequenceEntry
      return emptyScalar
    if !(← nextTokIs Tok.isBlockEnd) then throw .invalid
    discard takeTok
    popState
    return .sequenceEnd
  | .indentlessSequenceEntry =>
    if ← nextTokIs Tok.isBlockEntry then
      discard takeTok
      if !(← nextTokIs fun t => t.isBlockEntry || t.isKey || t.isValue || t.isBlockEnd) then
        pushState .indentlessSequenceEntry
        return ← parseNode true false
      goTo .indentlessSequenceEntry
      return emptyScalar
    popState
    return .sequenceEnd
  | .blockMappingFirstKey | .blockMappingKey =>
    if st == .blockMappingFirstKey then discard takeTok
    if ← nextTokIs Tok.isKey then
      discard takeTok
      if !(← nextTokIs fun t => t.isKey || t.isValue || t.isBlockEnd) then
        pushState .blockMappingValue
        return ← parseNode true true
      goTo .blockMappingValue
      return emptyScalar
    if !(← nextTokIs Tok.isBlockEnd) then throw .invalid
    discard takeTok
    popState
    return .mappingEnd
  | .blockMappingValue =>
    if ← nextTokIs Tok.isValue then
      discard takeTok
      if !(← nextTokIs fun t => t.isKey || t.isValue || t.isBlockEnd) then
        pushState .blockMappingKey
        return ← parseNode true true
      goTo .blockMappingKey
      return emptyScalar
    goTo .blockMappingKey
    return emptyScalar
  | .flowSequenceFirstEntry | .flowSequenceEntry =>
    let first := st == .flowSequenceFirstEntry
    if first then discard takeTok
    if !(← nextTokIs Tok.isFlowSequenceEnd) then
      if !first then
        if ← nextTokIs Tok.isFlowEntry then discard takeTok else throw .invalid
      if ← nextTokIs Tok.isKey then
        goTo .flowSequenceEntryMappingKey
        return .mappingStart none none true
      if !(← nextTokIs Tok.isFlowSequenceEnd) then
        pushState .flowSequenceEntry
        return ← parseNode false false
    discard takeTok
    popState
    return .sequenceEnd
  | .flowSequenceEntryMappingKey =>
    discard takeTok
    if !(← nextTokIs fun t => t.isValue || t.isFlowEntry || t.isFlowSequenceEnd) then
      pushState .flowSequenceEntryMappingValue
      return ← parseNode false false
    goTo .flowSequenceEntryMappingValue
    return emptyScalar
  | .flowSequenceEntryMappingValue =>
    if ← nextTokIs Tok.isValue then
      discard takeTok
      if !(← nextTokIs fun t => t.isFlowEntry || t.isFlowSequenceEnd) then
        pushState .flowSequenceEntryMappingEnd
        return ← parseNode false false
      goTo .flowSequenceEntryMappingEnd
      return emptyScalar
    goTo .flowSequenceEntryMappingEnd
    return emptyScalar
  | .flowSequenceEntryMappingEnd =>
    goTo .flowSequenceEntry
    return .mappingEnd
  | .flowMappingFirstKey | .flowMappingKey =>
    let first := st == .flowMappingFirstKey
    if first then discard takeTok
    if !(← nextTokIs Tok.isFlowMappingEnd) then
      if !first then
        if ← nextTokIs Tok.isFlowEntry then discard takeTok else throw .invalid
      if ← nextTokIs Tok.isKey then
        discard takeTok
        if !(← nextTokIs fun t => t.isValue || t.isFlowEntry || t.isFlowMappingEnd) then
          pushState .flowMappingValue
          return ← parseNode false false
        goTo .flowMappingValue
        return emptyScalar
      if !(← nextTokIs Tok.isFlowMappingEnd) then
        pushState .flowMappingEmptyValue
        return ← parseNode false false
    discard takeTok
    popState
    return .mappingEnd
  | .flowMappingValue =>
    if ← nextTokIs Tok.isValue then
      discard takeTok
      if !(← nextTokIs fun t => t.isFlowEntry || t.isFlowMappingEnd) then
        pushState .flowMappingKey
        return ← parseNode false false
      goTo .flowMappingKey
      return emptyScalar
    goTo .flowMappingKey
    return emptyScalar
  | .flowMappingEmptyValue =>
    goTo .flowMappingKey
    return emptyScalar

/-- The next event, without taking it; none after the end of the stream. -/
def peekEvent : Parse (Option Event) := do
  let l ← get
  match l.current with
  | some e => return some e
  | none =>
    match l.state with
    | none => return none
    | some st =>
      let e ← runState st
      modify fun l => { l with current := some e }
      return some e

/-- Takes the next event. -/
def takeEvent : Parse (Option Event) := do
  let e ← peekEvent
  modify fun l => { l with current := none }
  return e

/-! ## Composing nodes -/

/-- Adds a node and gives its number. -/
def addNode (n : Node) : Parse Nat := do
  let l ← get
  set { l with nodes := l.nodes.push n }
  return l.nodes.size

/-- Replaces the content of node `i`. -/
def setBody (i : Nat) (b : NodeBody) : Parse Unit :=
  modify fun l => { l with nodes := l.nodes.modify i fun n => { n with body := b } }

/-- Names node `i` by an anchor. -/
def nameNode (anchor : Option String) (i : Nat) : Parse Unit :=
  match anchor with
  | some a => modify fun l => { l with anchors := l.anchors ++ [(a, i)] }
  | none => pure ()

/-- Whether the next event is the end of a sequence (or mapping, when `mapping`). -/
def atCollectionEnd (mapping : Bool) : Parse Bool := do
  match ← peekEvent with
  | some .sequenceEnd => return !mapping
  | some .mappingEnd => return mapping
  | _ => return false

mutual

/-- Composes the next node, up to `fuel` levels deep, and gives its number. An alias
gives the node its anchor named; naming a second node by the same anchor is an error. -/
def composeNode (resolve : String → Bool × Bool → String) : Nat → Parse Nat
  | 0 => throw .invalid
  | fuel + 1 => do
    match ← peekEvent with
    | some (.alias name) =>
      discard takeEvent
      match (← get).anchors.lookup name with
      | some i => return i
      | none => throw .invalid
    | some e =>
      if let some a := e.anchor? then
        if ((← get).anchors.lookup a).isSome then throw .invalid
      match e with
      | .scalar anchor tag implicit value =>
        discard takeEvent
        let t := match tag with
          | some t => if t == "!" then resolve value implicit else t
          | none => resolve value implicit
        let i ← addNode ⟨t, .scalar value⟩
        nameNode anchor i
        return i
      | .sequenceStart anchor tag _ =>
        discard takeEvent
        let t := match tag with
          | some t => if t == "!" then seqTag else t
          | none => seqTag
        let i ← addNode ⟨t, .seq []⟩
        nameNode anchor i
        let items ← composeItems resolve fuel i []
        setBody i (.seq items)
        return i
      | .mappingStart anchor tag _ =>
        discard takeEvent
        let t := match tag with
          | some t => if t == "!" then mapTag else t
          | none => mapTag
        let i ← addNode ⟨t, .map []⟩
        nameNode anchor i
        let pairs ← composePairs resolve fuel i []
        setBody i (.map pairs)
        return i
      | _ => throw .invalid
    | none => throw .invalid

/-- The items of the sequence node `i` up to its end event, which is taken. -/
def composeItems (resolve : String → Bool × Bool → String) : Nat → Nat → List Nat → Parse (List Nat)
  | 0, _, _ => throw .invalid
  | fuel + 1, i, acc => do
    if ← atCollectionEnd false then
      discard takeEvent
      return acc
    let item ← composeNode resolve fuel
    setBody i (.seq (acc ++ [item]))
    composeItems resolve fuel i (acc ++ [item])

/-- The pairs of the mapping node `i` up to its end event, which is taken. -/
def composePairs (resolve : String → Bool × Bool → String) : Nat → Nat → List (Nat × Nat) →
    Parse (List (Nat × Nat))
  | 0, _, _ => throw .invalid
  | fuel + 1, i, acc => do
    if ← atCollectionEnd true then
      discard takeEvent
      return acc
    let k ← composeNode resolve fuel
    let v ← composeNode resolve fuel
    setBody i (.map (acc ++ [(k, v)]))
    composePairs resolve fuel i (acc ++ [(k, v)])

end

/-- The node graph of the first document of a text and the number of its root, or
`none` for a stream without documents. Tags of untagged scalars come from `resolve`. -/
def composeFirst (resolve : String → Bool × Bool → String) (text : String) :
    Except LoadError (Option (Array Node × Nat)) := do
  let l : Loader := { scanner := Scanner.start text }
  let run : Parse (Option Nat) := do
    if let some .streamStart ← peekEvent then discard takeEvent
    if let some .streamEnd ← peekEvent then return none
    discard takeEvent
    let fuel := 2 * (← get).scanner.fuel
    let root ← composeNode resolve fuel
    discard takeEvent
    return some root
  let (root, l) ← run.run l
  return root.map fun r => (l.nodes, r)

end IacLint.Yaml
