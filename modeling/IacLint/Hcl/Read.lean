import IacLint.Hcl.Scan
import IacLint.Hcl.Render
import IacLint.Number.Parse

/-!
# Reading a configuration document

A document is a body: attributes `name = expression` and blocks
`type label … { body }`, read into a mapping from names to values.

* An attribute maps its name to the stored form of its value (see `stored`). A name
  given twice in one body, or given both to an attribute and to blocks, is an error.
* A block adds, under its type, one entry to a list: the body's mapping, nested one
  level per label (`{label: {label: body}}`), with the lines of its type name and of its
  closing brace under `__start_line__` and `__end_line__`.
* Literals have values of their own: numbers, `true`, `false`, `null`, quoted strings
  and here-documents (kept in quotes until stored), tuples and objects. Every other
  expression is written out as text from the text of its parts (see `Render`).

Where line breaks may stand follows the grammar closely: between the items of a body,
inside brackets and parentheses, after a binary operator and after its right operand,
and around the parts of a conditional; never between an attribute's name and its `=`
nor between the `=` and the expression.

Each value read carries the height of its syntax tree. Evaluating the tree recurses once
per level, in frames that a fixed budget bounds, so a document whose tree is too tall
(`tooTall`) is refused like a malformed one.

## Main definitions

* `Node` — a value read with the height of its tree
* `Reader` — reading from a cursor, failing on text that is not valid
* `expr` — an expression
* `Item`, `assemble` — the items of a body and their mapping
* `readDocument` — the document of a text, or `none` when it is not valid
-/

namespace IacLint.Hcl

open IacLint.Data

/-- A value read, with the height of the syntax tree it was read from. -/
structure Node where
  value : Value
  height : Nat
  deriving Inhabited

/-- Reading part of a text: from a cursor to a result and the cursor after it, or
nothing when the text is not valid there. -/
abbrev Reader := StateT Cursor Option

/-- Skips what the position ignores (see `skipIgnored`). -/
def skipBlank (breaks : Bool) : Reader Unit := modify (skipIgnored breaks)

/-- Skips blanks and line breaks; tells whether there was a line break. -/
def skipLines : Reader Bool := do
  let (c, b) := skipBreaks (← get)
  set c
  return b

/-- Moves past `n` characters. -/
def step (n : Nat) : Reader Unit := modify (·.advance n)

/-- Reads the character `ch`, which must be next. -/
def expectChar (ch : Char) : Reader Unit := do
  match (← get).rest with
  | c :: _ => if c = ch then step 1 else failure
  | [] => failure

/-- Reads the name that must be next. -/
def readName : Reader String := do
  match nameAt (← get).rest with
  | some a => step a.length; return a
  | none => failure

/-- The height a line break adds among the children of a node: one when there was one. -/
def breakHeight (b : Bool) : Nat := if b then 1 else 0

/-- The value of a name: the three literal names, or the name as text. -/
def nameValue : String → Value
  | "true" => .bool true
  | "false" => .bool false
  | "null" => .null
  | a => .str a

/-- Digits one at a time, with what the position ignores between them; `acc` holds the
digits so far. -/
def digitsFrom (breaks : Bool) : Nat → List Char → Reader (List Char)
  | 0, acc => return acc
  | fuel + 1, acc => do
    let c := skipIgnored breaks (← get)
    match c.rest with
    | d :: _ =>
      if d.isDigit then do
        set (c.advance 1)
        digitsFrom breaks fuel (acc ++ [d])
      else return acc
    | [] => return acc

/-- The exponent next, after what the position ignores, or nothing. -/
def exponent (breaks : Bool) : Reader (List Char) := do
  let c := skipIgnored breaks (← get)
  match exponentAt c.rest with
  | some e => set (c.advance e.length); return e
  | none => return []

/-- A number: digits (the first may carry a minus sign), then a fraction after `.` or an
exponent or both. A number with neither is an integer, of at most as many digits as
integers may have in text; any other is a double. Blanks between the digits are
ignored. -/
def number (breaks : Bool) : Reader Node := do
  let c ← get
  let fuel := c.rest.length
  let first ← match c.rest with
    | '-' :: d :: _ => if d.isDigit then do step 2; pure ['-', d] else failure
    | d :: _ => do step 1; pure [d]
    | [] => failure
  let whole ← digitsFrom breaks fuel first
  let c := skipIgnored breaks (← get)
  let fraction ← match c.rest with
    | '.' :: '.' :: '.' :: _ => pure none
    | '.' :: '*' :: _ => pure none
    | '.' :: _ => do
      set (skipIgnored false (c.advance 1))
      match (← get).rest with
      | d :: _ => if d.isDigit then pure () else failure
      | [] => failure
      pure (some (← digitsFrom breaks fuel []))
    | _ => pure none
  let ex ← exponent breaks
  match fraction, ex with
  | none, [] =>
    match Number.readInt (String.ofList whole) 10 with
    | .ok n => return ⟨.int n, 2⟩
    | .error _ => failure
  | _, _ =>
    let digits := whole ++ (match fraction with | some f => '.' :: f | none => []) ++ ex
    match Number.readFloat? (String.ofList digits) with
    | some x => return ⟨.float x, 2⟩
    | none => failure

/-- An attribute access after its dot, `.name`, or, where `indexes` allows, a short
index `.digits`, written `[digits]`: its text and height. -/
def access (indexes : Bool) : Reader (String × Nat) := do
  let ds := (← get).rest.takeWhile Char.isDigit
  if !ds.isEmpty then
    if indexes then do
      step ds.length
      return ("[" ++ String.ofList ds ++ "]", 1)
    else failure
  else do
    let a ← readName
    return ("." ++ a, 2)

/-- A binary operation written out, and its height. -/
def binaryNode (lhs : Node) (op : String) (rhs : Node) (before after : Bool) : Node :=
  ⟨.str (unwrap (inline lhs.value) ++ " " ++ unwrap (op ++ " " ++ inline (nullAsWord rhs.value))),
    1 + max lhs.height (max (1 + max rhs.height (breakHeight before)) (breakHeight after))⟩

/-- A conditional written out, and its height. -/
def conditionalNode (c a b : Node) (breaks : Bool) : Node :=
  ⟨.str (text (nullAsWord c.value) ++ " ? " ++ text (nullAsWord a.value) ++ " : " ++
      text (nullAsWord b.value)),
    1 + max c.height (max a.height (max b.height (breakHeight breaks)))⟩

/-- Whether `for` opens a `for` expression here: followed by a name or a line break. -/
def opensFor (c : Cursor) : Bool :=
  wordAt "for" c.rest &&
    (let after := skipIgnored true (c.advance 3)
     (nameAt after.rest).isSome || (breakLength after.rest).isSome)

mutual

/-- An expression: an operand, then binary operations (grouping to the right) and
conditionals. `breaks` tells whether a line break may follow the expression. -/
def expr (breaks : Bool) : Nat → Reader Node
  | 0 => failure
  | n + 1 => do
    let lhs ← operand breaks n
    operations breaks n lhs
termination_by structural n => n

/-- The binary operations and conditionals after the expression `lhs`. After the right
operand of a binary operator, line breaks are read as part of the operation. -/
def operations (breaks : Bool) : Nat → Node → Reader Node
  | 0, _ => failure
  | n + 1, lhs => do
    skipBlank breaks
    let c ← get
    if breaks && (breakLength c.rest).isSome then return lhs
    match binaryOperatorAt c.rest with
    | some op => do
      step op.length
      let before ← skipLines
      let rhs ← expr true n
      let after ← skipLines
      operations breaks n (binaryNode lhs op rhs before after)
    | none =>
      match c.rest with
      | '?' :: _ => do
        step 1
        let b1 ← skipLines
        let a ← expr true n
        let b2 ← skipLines
        expectChar ':'
        let b3 ← skipLines
        let b ← expr breaks n
        operations breaks n (conditionalNode lhs a b (b1 || b2 || b3))
      | _ => return lhs
termination_by structural n _ => n

/-- An operand: a term, or a term after `-` or `!`. A minus sign glued to a digit
belongs to the number. -/
def operand (breaks : Bool) : Nat → Reader Node
  | 0 => failure
  | n + 1 => do
    skipBlank false
    match (← get).rest with
    | '-' :: d :: _ => if d.isDigit then term breaks n else unary breaks n "-"
    | '!' :: _ => unary breaks n "!"
    | _ => term breaks n
termination_by structural n => n

/-- A term after the unary operator `op`. -/
def unary (breaks : Bool) : Nat → String → Reader Node
  | 0, _ => failure
  | n + 1, op => do
    step 1
    skipBlank false
    let t ← term breaks n
    return ⟨.str (op ++ inline (nullAsWord t.value)), 1 + t.height⟩
termination_by structural n _ => n

/-- A term: a primary expression with the indexes, attribute accesses and splats after
it. -/
def term (breaks : Bool) : Nat → Reader Node
  | 0 => failure
  | n + 1 => do
    let p ← primary breaks n
    trailers breaks n p
termination_by structural n => n

/-- The indexes, attribute accesses and splats after the term `t`. -/
def trailers (breaks : Bool) : Nat → Node → Reader Node
  | 0, _ => failure
  | n + 1, t => do
    let c := skipIgnored breaks (← get)
    if breaks && (breakLength c.rest).isSome then return t
    match c.rest with
    | '[' :: '*' :: ']' :: _ => do
      set (c.advance 3)
      let (parts, h) ← splat breaks true n "" 0
      trailers breaks n ⟨.str (text t.value ++ "[*]" ++ parts), 2 + max t.height (1 + h)⟩
    | '[' :: _ => do
      set (c.advance 1)
      let b1 ← skipLines
      let i ← expr true n
      let b2 ← skipLines
      expectChar ']'
      trailers breaks n ⟨.str (text t.value ++ "[" ++ text i.value ++ "]"),
        2 + max t.height (1 + max i.height (breakHeight (b1 || b2)))⟩
    | '.' :: '.' :: '.' :: _ => return t
    | '.' :: '*' :: _ => do
      set (c.advance 2)
      let (parts, h) ← splat breaks false n "" 0
      trailers breaks n ⟨.str (text t.value ++ ".*" ++ parts), 2 + max t.height (1 + h)⟩
    | '.' :: _ => do
      set (skipIgnored false (c.advance 1))
      let (part, h) ← access true
      trailers breaks n ⟨.str (text t.value ++ part), 2 + max t.height h⟩
    | _ => return t
termination_by structural n _ => n

/-- The attribute accesses (and, in a full splat, the indexes) after a splat: their
text and the greatest height among them. -/
def splat (breaks full : Bool) : Nat → String → Nat → Reader (String × Nat)
  | 0, _, _ => failure
  | n + 1, acc, h => do
    let c := skipIgnored breaks (← get)
    if breaks && (breakLength c.rest).isSome then return (acc, h)
    match c.rest with
    | '.' :: '.' :: '.' :: _ => return (acc, h)
    | '.' :: '*' :: _ => return (acc, h)
    | '.' :: _ => do
      set (skipIgnored false (c.advance 1))
      let (part, h') ← access full
      splat breaks full n (acc ++ part) (max h h')
    | '[' :: '*' :: ']' :: _ => return (acc, h)
    | '[' :: _ =>
      if full then do
        set (c.advance 1)
        let b1 ← skipLines
        let i ← expr true n
        let b2 ← skipLines
        expectChar ']'
        splat breaks full n (acc ++ "[" ++ text i.value ++ "]")
          (max h (1 + max i.height (breakHeight (b1 || b2))))
      else return (acc, h)
    | _ => return (acc, h)
termination_by structural n _ _ => n

/-- A primary expression: a literal, a name, a call, brackets or parentheses. -/
def primary (breaks : Bool) : Nat → Reader Node
  | 0 => failure
  | n + 1 => do
    skipBlank false
    let c ← get
    match c.rest with
    | '-' :: _ => number breaks
    | '"' :: _ => do
      let s ← quoted n
      return ⟨s.value, 1 + s.height⟩
    | '[' :: _ => do
      step 1
      let b ← skipLines
      if opensFor (← get) then forTuple n (breakHeight b)
      else tuple n [] (breakHeight b)
    | '\x7b' :: _ => do
      step 1
      let b ← skipLines
      if opensFor (← get) then forObject n (breakHeight b)
      else object n [] (breakHeight b)
    | '(' :: _ => do
      step 1
      let b1 ← skipLines
      let e ← expr true n
      let b2 ← skipLines
      expectChar ')'
      return ⟨e.value, 1 + max e.height (breakHeight (b1 || b2))⟩
    | '<' :: '<' :: rest =>
      match heredocAt rest with
      | some (body, k) => do
        step (2 + k)
        return ⟨.str ("\"" ++ body ++ "\""), 2⟩
      | none => failure
    | d :: _ =>
      if d.isDigit then number breaks
      else do
        let a ← readName
        let c := skipIgnored breaks (← get)
        match c.rest with
        | '(' :: _ => do
          set (c.advance 1)
          call n a
        | ':' :: ':' :: _ => do
          set (skipIgnored false (c.advance 2))
          let m ← readName
          skipBlank false
          expectChar ':'
          expectChar ':'
          skipBlank false
          let f ← readName
          skipBlank false
          expectChar '('
          call n (a ++ "::" ++ m ++ "::" ++ f)
        | _ => return ⟨nameValue a, 2⟩
    | [] => failure
termination_by structural n => n

/-- A function call after its opening parenthesis: arguments separated by commas, with
an optional last comma or `...`, then the closing parenthesis. -/
def call : Nat → String → Reader Node
  | 0, _ => failure
  | n + 1, f => do
    let b ← skipLines
    match (← get).rest with
    | ')' :: _ => do
      step 1
      return ⟨.str (f ++ "()"), 2 + max 1 (breakHeight b)⟩
    | _ => do
      let (args, h) ← arguments n [] (breakHeight b)
      return ⟨.str (f ++ "(" ++ ", ".intercalate (args.map fun a => inline (nullAsWord a)) ++ ")"),
        2 + max 1 (1 + h)⟩
termination_by structural n _ => n

/-- The arguments of a call up to and with the closing parenthesis; `acc` holds those
read so far and `h` their greatest height. -/
def arguments : Nat → List Value → Nat → Reader (List Value × Nat)
  | 0, _, _ => failure
  | n + 1, acc, h => do
    let a ← expr true n
    let acc := acc ++ [a.value]
    let h := max h a.height
    let b ← skipLines
    let h := max h (breakHeight b)
    match (← get).rest with
    | ',' :: _ => do
      step 1
      let b ← skipLines
      let h := max h (breakHeight b)
      match (← get).rest with
      | ')' :: _ => do step 1; return (acc, h)
      | _ => arguments n acc h
    | '.' :: '.' :: '.' :: _ => do
      step 3
      let b ← skipLines
      expectChar ')'
      return (acc, max h (breakHeight b))
    | ')' :: _ => do step 1; return (acc, h)
    | _ => failure
termination_by structural n _ _ => n

/-- A quoted string after its opening quote: plain characters and interpolations, up to
the closing quote. The value keeps its quotes. -/
def quoted : Nat → Reader Node
  | 0 => failure
  | n + 1 => do
    step 1
    let (body, h) ← stringParts n "" 0
    return ⟨.str ("\"" ++ body ++ "\""), 1 + h⟩
termination_by structural n => n

/-- The parts of a quoted string up to and with the closing quote: their text and the
greatest height among them. -/
def stringParts : Nat → String → Nat → Reader (String × Nat)
  | 0, _, _ => failure
  | n + 1, acc, h => do
    let cs := (← get).rest
    match cs with
    | '"' :: _ => do step 1; return (acc, h)
    | '$' :: '$' :: '\x7b' :: _ => do
      step 3
      let e ← interpolation n
      stringParts n (acc ++ "$" ++ exprOpen ++ e.1 ++ "\x7d") (max h (2 + e.2))
    | '$' :: '\x7b' :: _ => do
      step 2
      let e ← interpolation n
      stringParts n (acc ++ exprOpen ++ e.1 ++ "\x7d") (max h (2 + e.2))
    | _ =>
      let k := stringCharsLength cs
      if k = 0 then failure
      else do
        step k
        stringParts n (acc ++ String.ofList (cs.take k)) (max h 1)
termination_by structural n _ _ => n

/-- The expression of an interpolation up to and with its closing brace: its text and
height. Only an expression written out as text may be interpolated. -/
def interpolation : Nat → Reader (String × Nat)
  | 0 => failure
  | n + 1 => do
    let e ← expr false n
    skipBlank false
    expectChar '\x7d'
    match e.value with
    | .str s => return (s, e.height)
    | _ => failure
termination_by structural n => n

/-- The items of a tuple after its opening bracket, up to and with the closing bracket;
each item is stored. `h` is the greatest height among the children so far. -/
def tuple : Nat → List Value → Nat → Reader Node
  | 0, _, _ => failure
  | n + 1, acc, h => do
    let b ← skipLines
    let h := max h (breakHeight b)
    match (← get).rest with
    | ']' :: _ => do step 1; return ⟨.list acc, 2 + h⟩
    | _ => do
      let e ← expr true n
      let acc := acc ++ [stored e.value]
      let b ← skipLines
      let h := max h (max e.height (breakHeight b))
      match (← get).rest with
      | ',' :: _ => do step 1; tuple n acc h
      | ']' :: _ => do step 1; return ⟨.list acc, 2 + h⟩
      | _ => failure
termination_by structural n _ _ => n

/-- The elements of an object after its opening brace, up to and with the closing
brace. Elements are separated by a line break, a comma, or a comma and a line break;
a repeated key keeps its first place and takes the last value. -/
def object : Nat → Entries → Nat → Reader Node
  | 0, _, _ => failure
  | n + 1, acc, h => do
    match (← get).rest with
    | '\x7d' :: _ => do step 1; return ⟨.map acc, 2 + h⟩
    | _ => do
      let (k, v, eh) ← element n
      let acc := Entries.insert acc (.str k) v
      let h := max h eh
      let c := skipIgnored true (← get)
      set c
      let sep ← match c.rest with
        | ',' :: _ => do
          step 1
          let _ ← skipLines
          pure true
        | _ => skipLines
      skipBlank true
      match (← get).rest with
      | '\x7d' :: _ => do step 1; return ⟨.map acc, 2 + h⟩
      | _ => if sep then object n acc h else failure
termination_by structural n _ _ => n

/-- An element of an object: a key expression, `=` or `:`, and a value. The key is the
text of the key's value without quotes; the value is stored. -/
def element : Nat → Reader (String × Value × Nat)
  | 0 => failure
  | n + 1 => do
    let k ← expr false n
    skipBlank false
    let c ← get
    if assignAt c.rest then step 1
    else match c.rest with
      | ':' :: _ => step 1
      | _ => failure
    let v ← expr true n
    return (stripQuotes (text k.value), stored v.value, 1 + max (1 + k.height) v.height)
termination_by structural n => n

/-- The head of a `for` expression, `for k, v in collection :`, written out with its
parts separated by blanks, and its height. -/
def forIntro : Nat → Reader (String × Nat)
  | 0 => failure
  | n + 1 => do
    step 3
    let b1 ← skipLines
    let k ← readName
    skipBlank true
    let second ← match (← get).rest with
      | ',' :: _ => do
        step 1
        skipBlank false
        let v ← readName
        pure [",", v]
      | _ => pure []
    let b2 ← skipLines
    if !wordAt "in" (← get).rest then failure
    step 2
    let b3 ← skipLines
    let coll ← expr true n
    let b4 ← skipLines
    expectChar ':'
    let b5 ← skipLines
    return (" ".intercalate (["for", k] ++ second ++ ["in", inline coll.value, ":"]),
      1 + max coll.height (max 1 (breakHeight (b1 || b2 || b3 || b4 || b5))))
termination_by structural n => n

/-- The condition of a `for` expression if one is next, written out with its height. -/
def forCondition : Nat → Reader (Option (String × Nat))
  | 0 => failure
  | n + 1 => do
    if wordAt "if" (← get).rest then do
      step 2
      let b ← skipLines
      let e ← expr true n
      return some ("if " ++ inline e.value, 1 + max e.height (breakHeight b))
    else return none
termination_by structural n => n

/-- A `for` expression in brackets, after the opening bracket and line breaks. -/
def forTuple : Nat → Nat → Reader Node
  | 0, _ => failure
  | n + 1, h => do
    let (intro, hi) ← forIntro n
    let b1 ← skipLines
    let e ← expr true n
    let b2 ← skipLines
    let cond ← forCondition n
    let b3 ← skipLines
    expectChar ']'
    let parts := [intro, inline e.value] ++ (cond.map (·.1)).toList
    let h := max h (max hi (max e.height (max ((cond.map (·.2)).getD 0)
      (breakHeight (b1 || b2 || b3)))))
    return ⟨.str ("[" ++ " ".intercalate parts ++ "]"), 2 + h⟩
termination_by structural n _ => n

/-- A `for` expression in braces, after the opening brace and line breaks. -/
def forObject : Nat → Nat → Reader Node
  | 0, _ => failure
  | n + 1, h => do
    let (intro, hi) ← forIntro n
    let b1 ← skipLines
    let k ← expr false n
    skipBlank false
    expectChar '='
    expectChar '>'
    let b2 ← skipLines
    let v ← expr true n
    skipBlank true
    let grouped ← match (← get).rest with
      | '.' :: '.' :: '.' :: _ => do step 3; pure true
      | _ => pure false
    let b3 ← skipLines
    let cond ← forCondition n
    let b4 ← skipLines
    expectChar '\x7d'
    let parts := [intro, inline k.value, "=>", inline v.value] ++
      (if grouped then ["..."] else []) ++ (cond.map (·.1)).toList
    let h := max h (max hi (max k.height (max v.height (max ((cond.map (·.2)).getD 0)
      (breakHeight (b1 || b2 || b3 || b4))))))
    return ⟨.str ("\x7b" ++ " ".intercalate parts ++ "\x7d"), 2 + h⟩
termination_by structural n _ => n

end

/-- An item of a body. -/
inductive Item where
  /-- An attribute with its stored value. -/
  | attribute (name : String) (value : Value)
  /-- A block of a type, as the labels nest it. -/
  | block (type : String) (value : Value)

/-- Adds one more entry to the list under a block type. -/
def appendEntry (kvs : Entries) (k : String) (v : Value) : Entries :=
  kvs.map fun kv =>
    match kv with
    | (.str key, .list xs) => if key == k then (.str key, .list (xs ++ [v])) else kv
    | _ => kv

/-- The mapping of a body's items: attributes under their names, blocks in a list under
their type. A name used twice by attributes, or by an attribute and blocks, is an error;
`attrs` are the attribute names so far. -/
def assemble : List Item → Entries → List String → Option Entries
  | [], acc, _ => some acc
  | .attribute a v :: rest, acc, attrs =>
    if Entries.hasKey acc (.str a) then none else assemble rest (acc ++ [(.str a, v)]) (a :: attrs)
  | .block k v :: rest, acc, attrs =>
    if Entries.hasKey acc (.str k) then
      if attrs.contains k then none else assemble rest (appendEntry acc k v) attrs
    else assemble rest (acc ++ [(.str k, .list [v])]) attrs

/-- A body nested under its labels, the last label innermost. -/
def nest (labels : List String) (body : Value) : Value :=
  labels.foldr (fun l v => .map [(.str l, v)]) body

mutual

/-- The items of a body, up to what starts none; `h` is the greatest height among them
so far. -/
def bodyItems : Nat → List Item → Nat → Reader (List Item × Nat)
  | 0, _, _ => failure
  | n + 1, acc, h => do
    let b ← skipLines
    let h := max h (breakHeight b)
    let c ← get
    match nameAt c.rest with
    | none => return (acc, h)
    | some a => do
      step a.length
      skipBlank true
      if assignAt (← get).rest then do
        step 1
        let v ← expr true n
        bodyItems n (acc ++ [.attribute a (stored v.value)]) (max h (1 + max 1 v.height))
      else do
        let (v, hb) ← block n c.line [] 1
        bodyItems n (acc ++ [.block a v]) (max h hb)
termination_by structural n _ _ => n

/-- A block after its type name, which stands on `line`: labels (names or quoted
strings), an optional line break, and the body in braces. `h` is the greatest height
among its children so far. -/
def block : Nat → Nat → List String → Nat → Reader (Value × Nat)
  | 0, _, _, _ => failure
  | n + 1, line, labels, h => do
    skipBlank true
    let c ← get
    match c.rest with
    | '"' :: _ => do
      let s ← quoted n
      block n line (labels ++ [stripQuotes (text s.value)]) (max h s.height)
    | _ =>
      match nameAt c.rest with
      | some l => do
        step l.length
        block n line (labels ++ [l]) h
      | none => do
        let b ← skipLines
        expectChar '\x7b'
        let (items, hb) ← bodyItems n [] 0
        let closing := (← get).line
        expectChar '\x7d'
        let some kvs := assemble items [] [] | failure
        let kvs := Entries.insert kvs (.str "__start_line__") (.int line)
        let kvs := Entries.insert kvs (.str "__end_line__") (.int closing)
        return (nest labels (.map kvs), 1 + max h (max (breakHeight b) (1 + hb)))
termination_by structural n _ _ _ => n

end

/-- The frames that evaluating a document may take. -/
def frameBudget : Nat := 1000

/-- The frames taken before the first level of the tree is evaluated. -/
def framesBefore : Nat := 12

/-- Whether a tree of the given height is too tall to evaluate: every level takes two
frames. -/
def tooTall (height : Nat) : Bool := decide (2 * height + framesBefore > frameBudget)

/-- The document of a text: its top-level body's mapping, or `none` when the text is
not valid. A text that does not end with a line feed is read with one added. -/
def readDocument (text : String) : Option Entries := do
  let text := if text.endsWith "\n" then text else text ++ "\n"
  let cs := text.toList
  let ((items, h), c) ← (bodyItems (16 * (cs.length + 4)) [] 0).run ⟨cs, 1⟩
  if !c.rest.isEmpty then none
  if tooTall (2 + h) then none
  assemble items [] []

end IacLint.Hcl
