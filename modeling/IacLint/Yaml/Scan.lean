import IacLint.Text.Utf8
import IacLint.Text.Surrogate

/-!
# Tokens of a YAML stream

The first stage of loading YAML: the text becomes a stream of tokens. Indentation opens
and closes block collections; a *simple key* (a key written without `?`) is only known
to be a key when its `:` turns up, so the scanner remembers, per flow level, where such
a key may start, and inserts the key token (and the start of a block mapping) there
once the `:` is found. A possible key that is still open when the line ends, or more
than 1024 characters later, lapses; if the key was required (it started a block line at
the current indentation), the text is invalid.

Tokens are made on demand: the scanner reads only as far as the tokens asked for, plus
what deciding about open simple keys needs. A flaw further on in the text is therefore
only found when reading gets there.

Columns count characters since the last line break; a byte order mark takes none.

## Main definitions

* `LoadError` — a text that is no YAML document, or a value that cannot be built
* `Tok` — the tokens
* `Scanner` — the scanner's position and bookkeeping
* `peekToken`, `takeToken` — the next token, scanning as far as needed
-/

namespace IacLint.Yaml

/-- What stops loading a document. -/
inductive LoadError where
  /-- The text is no valid YAML (the diagnostic itself is not kept). -/
  | invalid
  /-- Building a value failed with an error of the kind `kind` and the message. -/
  | raised (kind message : String)
  deriving Repr, Inhabited

/-- The content of a directive line. -/
inductive Directive where
  /-- `%YAML major.minor`. -/
  | version (major minor : Nat)
  /-- `%TAG handle uri`. -/
  | tagHandle (handle uri : String)
  /-- Any other directive, ignored. -/
  | other
  deriving Repr, Inhabited

/-- A token of a YAML stream. -/
inductive Tok where
  | streamStart
  | streamEnd
  | directive (name : String) (d : Directive)
  | documentStart
  | documentEnd
  | blockSequenceStart
  | blockMappingStart
  | blockEnd
  | flowSequenceStart
  | flowMappingStart
  | flowSequenceEnd
  | flowMappingEnd
  | key
  | value
  | blockEntry
  | flowEntry
  | alias (name : String)
  | anchor (name : String)
  /-- A tag: its handle (none for a verbatim `!<…>` tag or a lone `!`) and suffix. -/
  | tag (handle : Option String) (suffix : String)
  /-- A scalar's text, and whether it was written plain (without quotes or block
  indicator). -/
  | scalar (text : String) (plain : Bool)
  deriving Repr, Inhabited

/-- A place where a simple key may start. -/
structure SimpleKey where
  /-- The number the key token will have in the whole stream. -/
  tokenNumber : Nat
  /-- Whether the key must be completed (it opens a block line at the indentation). -/
  required : Bool
  /-- The character position. -/
  index : Nat
  line : Nat
  column : Nat
  deriving Repr, Inhabited

/-- The scanner's state. -/
structure Scanner where
  /-- The text, with a NUL character added at the end. -/
  src : Array Char
  pos : Nat := 0
  line : Nat := 0
  column : Nat := 0
  /-- Whether the end of the stream has been read. -/
  done : Bool := false
  /-- The depth of `[` and `{` nesting (below zero after unmatched closings). -/
  flowLevel : Int := 0
  /-- Tokens made but not yet taken. -/
  tokens : List Tok := []
  /-- The number of tokens taken so far. -/
  tokensTaken : Nat := 0
  /-- The current block indentation, `-1` outside any block collection. -/
  indent : Int := -1
  /-- The enclosing indentations, innermost first. -/
  indents : List Int := []
  /-- Whether a simple key may start here. -/
  allowSimpleKey : Bool := true
  /-- The possible simple keys, by flow level. -/
  simpleKeys : List (Int × SimpleKey) := []
  deriving Inhabited

/-- The scanning monad. -/
abbrev Scan := StateT Scanner (Except LoadError)

/-- Whether a character breaks a line. -/
def isBreakChar (c : Char) : Bool :=
  c == '\r' || c == '\n' || c == '\x85' || c == '\u2028' || c == '\u2029'

/-- A line break or the end of the text. -/
def isBreakOrEnd (c : Char) : Bool := c == '\x00' || isBreakChar c

/-- A space, a line break or the end of the text. -/
def isSpaceOrEnd (c : Char) : Bool := c == ' ' || isBreakOrEnd c

/-- A space, a tab, a line break or the end of the text. -/
def isBlankOrEnd (c : Char) : Bool := c == '\t' || isSpaceOrEnd c

/-- An ASCII letter or digit, `-` or `_`: the characters of names. -/
def isWordChar (c : Char) : Bool :=
  ('0' ≤ c && c ≤ '9') || ('A' ≤ c && c ≤ 'Z') || ('a' ≤ c && c ≤ 'z') || c == '-' || c == '_'

/-- A hexadecimal digit. -/
def isHexChar (c : Char) : Bool :=
  ('0' ≤ c && c ≤ '9') || ('A' ≤ c && c ≤ 'F') || ('a' ≤ c && c ≤ 'f')

/-- The value of a hexadecimal digit. -/
def hexValue (c : Char) : Nat :=
  if c ≤ '9' then c.toNat - 48 else if c ≤ 'F' then c.toNat - 55 else c.toNat - 87

/-- The value of hexadecimal digits. -/
def hexNumber (s : String) : Nat := s.toList.foldl (fun n c => 16 * n + hexValue c) 0

/-- The characters allowed in tag URIs. -/
def isUriChar (c : Char) : Bool :=
  ('0' ≤ c && c ≤ '9') || ('A' ≤ c && c ≤ 'Z') || ('a' ≤ c && c ≤ 'z') ||
    "-;/?:@&=+$,_.!~*'()[]%".contains c

namespace Scanner

/-- A fresh scanner on a text: the stream-start token is ready. -/
def start (text : String) : Scanner :=
  { src := (text.toList ++ ['\x00']).toArray, tokens := [.streamStart] }

/-- The character `k` places ahead (NUL past the end). -/
def charAt (s : Scanner) (k : Nat) : Char := s.src.getD (s.pos + k) '\x00'

/-- A bound on any scan over the text. -/
def fuel (s : Scanner) : Nat := s.src.size + 2

/-- Moves one character on, keeping line and column. -/
def step (s : Scanner) : Scanner :=
  let c := s.charAt 0
  let pos := s.pos + 1
  let next := s.src.getD pos '\x00'
  if c == '\n' || c == '\x85' || c == '\u2028' || c == '\u2029' || (c == '\r' && next != '\n') then
    { s with pos, line := s.line + 1, column := 0 }
  else if c != '\uFEFF' then { s with pos, column := s.column + 1 }
  else { s with pos }

/-- The position of the first character from the `k`-th on that fails `p`. -/
def skipFrom (s : Scanner) (p : Char → Bool) : Nat → Nat → Nat
  | 0, k => k
  | fuel + 1, k => if p (s.charAt k) then s.skipFrom p fuel (k + 1) else k

end Scanner

/-- The character `k` places ahead. -/
def peek (k : Nat) : Scan Char := do return (← get).charAt k

/-- The next `n` characters. -/
def ahead (n : Nat) : Scan String := do
  let s ← get
  return String.ofList ((List.range n).map s.charAt)

/-- Moves `n` characters on. -/
def forward (n : Nat) : Scan Unit := modify fun s => Nat.repeat Scanner.step n s

/-- The number of characters from the `k`-th on before one that fails `p`, plus `k`. -/
def lengthWhile (p : Char → Bool) (k : Nat) : Scan Nat := do
  let s ← get
  return s.skipFrom p s.fuel k

/-- Moves past the characters that satisfy `p`. -/
def skipWhile (p : Char → Bool) : Scan Unit := do forward (← lengthWhile p 0)

/-- Adds a token at the end of the queue. -/
def push (t : Tok) : Scan Unit := modify fun s => { s with tokens := s.tokens ++ [t] }

/-- Reads one line break: `\r\n`, `\r`, `\n` and `U+85` read as `\n`, the line and
paragraph separators as themselves; nothing when there is no line break. -/
def scanLineBreak : Scan String := do
  let c ← peek 0
  if c == '\r' || c == '\n' || c == '\x85' then
    if (← ahead 2) == "\r\n" then forward 2 else forward 1
    return "\n"
  else if c == '\u2028' || c == '\u2029' then
    forward 1
    return c.toString
  else return ""

/-- Sets whether a simple key may start here. -/
def allowKey (b : Bool) : Scan Unit := modify fun s => { s with allowSimpleKey := b }

/-! ## Simple keys and indentation -/

/-- Whether a possible simple key has lapsed. -/
def SimpleKey.stale (k : SimpleKey) (s : Scanner) : Bool :=
  k.line != s.line || s.pos - k.index > 1024

/-- Drops the lapsed possible simple keys; a lapsed required key is an error. -/
def staleSimpleKeys : Scan Unit := do
  let s ← get
  if s.simpleKeys.any fun (_, k) => k.stale s && k.required then throw .invalid
  set { s with simpleKeys := s.simpleKeys.filter fun (_, k) => !k.stale s }

/-- Drops the possible simple key of the current flow level; a required one is an error. -/
def removeSimpleKey : Scan Unit := do
  let s ← get
  match s.simpleKeys.find? (·.1 == s.flowLevel) with
  | some (_, k) =>
    if k.required then throw .invalid
    set { s with simpleKeys := s.simpleKeys.filter (·.1 != s.flowLevel) }
  | none => pure ()

/-- Notes that a simple key may start at the current position. -/
def saveSimpleKey : Scan Unit := do
  let s ← get
  let required := s.flowLevel == 0 && s.indent == (s.column : Int)
  if s.allowSimpleKey then
    removeSimpleKey
    let s ← get
    let k : SimpleKey := ⟨s.tokensTaken + s.tokens.length, required, s.pos, s.line, s.column⟩
    set { s with simpleKeys := (s.simpleKeys.filter fun (e : Int × SimpleKey) => e.1 != s.flowLevel) ++ [(s.flowLevel, k)] }

/-- Closes the block collections indented deeper than `column`. -/
def unwindIndent (column : Int) : Scan Unit := do
  if (← get).flowLevel != 0 then return
  for _ in List.range ((← get).indents.length + 1) do
    let s ← get
    if s.indent > column then
      match s.indents with
      | i :: rest => set { s with indent := i, indents := rest, tokens := s.tokens ++ [Tok.blockEnd] }
      | [] => return
    else return

/-- Opens a deeper indentation at `column`, if it is deeper. -/
def addIndent (column : Int) : Scan Bool := do
  let s ← get
  if s.indent < column then
    set { s with indents := s.indent :: s.indents, indent := column }
    return true
  return false

/-- Moves to the next token: past spaces, comments and line breaks (a line break
outside flow collections allows a simple key again). -/
def scanToNextToken : Scan Unit := do
  let s ← get
  if s.pos == 0 && s.charAt 0 == '\uFEFF' then forward 1
  for _ in List.range (← get).fuel do
    skipWhile (· == ' ')
    if (← peek 0) == '#' then skipWhile fun c => !isBreakOrEnd c
    if (← scanLineBreak).isEmpty then return
    if (← get).flowLevel == 0 then allowKey true

/-! ## Directives, anchors and tags -/

/-- A run of name characters; an empty run is an error. -/
def scanWord : Scan String := do
  let n ← lengthWhile isWordChar 0
  if n == 0 then throw .invalid
  let w ← ahead n
  forward n
  return w

/-- A decimal number of a version directive. -/
def scanVersionNumber : Scan Nat := do
  if !(← peek 0).isDigit then throw .invalid
  let n ← lengthWhile Char.isDigit 0
  let w ← ahead n
  forward n
  return w.toNat?.getD 0

/-- A tag handle: `!`, `!!` or `!name!`. -/
def scanTagHandle : Scan String := do
  if (← peek 0) != '!' then throw .invalid
  let mut n := 1
  if (← peek 1) != ' ' then
    n ← lengthWhile isWordChar 1
    if (← peek n) != '!' then
      forward n
      throw .invalid
    n := n + 1
  let h ← ahead n
  forward n
  return h

/-- Percent escapes in a tag URI: the bytes must be UTF-8. -/
def scanUriEscapes : Scan String := do
  let mut codes : List UInt8 := []
  for _ in List.range (← get).fuel do
    if (← peek 0) != '%' then break
    forward 1
    if !(isHexChar (← peek 0) && isHexChar (← peek 1)) then throw .invalid
    codes := codes ++ [(hexNumber (← ahead 2)).toUInt8]
    forward 2
  match Text.decodeStrict? codes with
  | some t => return t
  | none => throw .invalid

/-- A tag URI; an empty one is an error. -/
def scanTagUri : Scan String := do
  let mut chunks : List String := []
  let mut n := 0
  for _ in List.range (← get).fuel do
    let c ← peek n
    if !isUriChar c then break
    if c == '%' then
      chunks := chunks ++ [← ahead n]
      forward n
      n := 0
      chunks := chunks ++ [← scanUriEscapes]
    else n := n + 1
  if n > 0 then
    chunks := chunks ++ [← ahead n]
    forward n
  if chunks.isEmpty then throw .invalid
  return String.join chunks

/-- The rest of a directive line: spaces, an optional comment, a line break. -/
def scanDirectiveIgnoredLine : Scan Unit := do
  skipWhile (· == ' ')
  if (← peek 0) == '#' then skipWhile fun c => !isBreakOrEnd c
  if !isBreakOrEnd (← peek 0) then throw .invalid
  discard scanLineBreak

/-- A directive line after its `%`. -/
def scanDirective : Scan Tok := do
  forward 1
  let name ← scanWord
  if !isSpaceOrEnd (← peek 0) then throw .invalid
  let d ← if name == "YAML" then do
      skipWhile (· == ' ')
      let major ← scanVersionNumber
      if (← peek 0) != '.' then throw .invalid
      forward 1
      let minor ← scanVersionNumber
      if !isSpaceOrEnd (← peek 0) then throw .invalid
      pure (Directive.version major minor)
    else if name == "TAG" then do
      skipWhile (· == ' ')
      let handle ← scanTagHandle
      if (← peek 0) != ' ' then throw .invalid
      skipWhile (· == ' ')
      let uri ← scanTagUri
      if !isSpaceOrEnd (← peek 0) then throw .invalid
      pure (Directive.tagHandle handle uri)
    else do
      skipWhile fun c => !isBreakOrEnd c
      pure Directive.other
  scanDirectiveIgnoredLine
  return .directive name d

/-- An anchor or alias name after its `&` or `*`. -/
def scanAnchorName : Scan String := do
  forward 1
  let name ← scanWord
  if !(isBlankOrEnd (← peek 0) || "?:,]\x7d%@`".contains (← peek 0)) then throw .invalid
  return name

/-- A tag: verbatim `!<uri>`, a lone `!`, or a handle and a suffix. -/
def scanTag : Scan Tok := do
  let c ← peek 1
  let (handle, suffix) ← if c == '<' then do
      forward 2
      let suffix ← scanTagUri
      if (← peek 0) != '>' then throw .invalid
      forward 1
      pure (none, suffix)
    else if isBlankOrEnd c then do
      forward 1
      pure (none, "!")
    else do
      let s ← get
      let k := s.skipFrom (fun c => !isSpaceOrEnd c && c != '!') s.fuel 1
      let handle ← if s.charAt k == '!' then scanTagHandle else do
        forward 1
        pure "!"
      let suffix ← scanTagUri
      pure (some handle, suffix)
  if !isSpaceOrEnd (← peek 0) then throw .invalid
  return .tag handle suffix

/-! ## Block scalars -/

/-- The chomping and indentation indicators after `|` or `>`. -/
def scanBlockIndicators : Scan (Option Bool × Option Nat) := do
  let mut chomping : Option Bool := none
  let mut increment : Option Nat := none
  let c ← peek 0
  if c == '+' || c == '-' then
    chomping := some (c == '+')
    forward 1
    let d ← peek 0
    if d.isDigit then
      if d == '0' then throw .invalid
      increment := some (d.toNat - 48)
      forward 1
  else if c.isDigit then
    if c == '0' then throw .invalid
    increment := some (c.toNat - 48)
    forward 1
    let d ← peek 0
    if d == '+' || d == '-' then
      chomping := some (d == '+')
      forward 1
  if !isSpaceOrEnd (← peek 0) then throw .invalid
  return (chomping, increment)

/-- The rest of a block scalar's header line. -/
def scanBlockIgnoredLine : Scan Unit := do
  skipWhile (· == ' ')
  if (← peek 0) == '#' then skipWhile fun c => !isBreakOrEnd c
  if !isBreakOrEnd (← peek 0) then throw .invalid
  discard scanLineBreak

/-- Blank lines before a block scalar's first line, and the deepest indentation seen. -/
def scanBlockIndentation : Scan (List String × Nat) := do
  let mut chunks : List String := []
  let mut most := 0
  for _ in List.range (← get).fuel do
    let c ← peek 0
    if !(c == ' ' || isBreakChar c) then break
    if c != ' ' then chunks := chunks ++ [← scanLineBreak]
    else
      forward 1
      let col := (← get).column
      if col > most then most := col
  return (chunks, most)

/-- Line breaks inside a block scalar, with indentation up to `indent` skipped. -/
def scanBlockBreaks (indent : Int) : Scan (List String) := do
  let mut chunks : List String := []
  for _ in List.range (← get).fuel do
    if ((← get).column : Int) < indent && (← peek 0) == ' ' then forward 1 else break
  for _ in List.range (← get).fuel do
    if !isBreakChar (← peek 0) then break
    chunks := chunks ++ [← scanLineBreak]
    for _ in List.range (← get).fuel do
      if ((← get).column : Int) < indent && (← peek 0) == ' ' then forward 1 else break
  return chunks

/-- A literal (`|`) or folded (`>`) block scalar. -/
def scanBlockScalar (folded : Bool) : Scan Tok := do
  forward 1
  let (chomping, increment) ← scanBlockIndicators
  scanBlockIgnoredLine
  let minIndent : Int := max 1 ((← get).indent + 1)
  let (breaks0, indent) ← match increment with
    | none => do
      let (bs, most) ← scanBlockIndentation
      pure (bs, max minIndent (most : Int))
    | some inc => do
      let indent := minIndent + inc - 1
      pure (← scanBlockBreaks indent, indent)
  let mut breaks := breaks0
  let mut chunks : List String := []
  let mut lineBreak := ""
  for _ in List.range (← get).fuel do
    if !(((← get).column : Int) == indent && (← peek 0) != '\x00') then break
    chunks := chunks ++ breaks
    let leadingNonSpace := !((← peek 0) == ' ' || (← peek 0) == '\t')
    let n ← lengthWhile (fun c => !isBreakOrEnd c) 0
    chunks := chunks ++ [← ahead n]
    forward n
    lineBreak ← scanLineBreak
    breaks ← scanBlockBreaks indent
    if ((← get).column : Int) == indent && (← peek 0) != '\x00' then
      if folded && lineBreak == "\n" && leadingNonSpace && !((← peek 0) == ' ' || (← peek 0) == '\t') then
        if breaks.isEmpty then chunks := chunks ++ [" "]
      else chunks := chunks ++ [lineBreak]
    else break
  if chomping != some false then chunks := chunks ++ [lineBreak]
  if chomping == some true then chunks := chunks ++ breaks
  return .scalar (String.join chunks) false

/-! ## Quoted scalars -/

/-- The character a one-letter escape of a double-quoted scalar stands for. -/
def escapeReplacement (c : Char) : Option Char :=
  match c with
  | '0' => some '\x00'
  | 'a' => some '\x07'
  | 'b' => some '\x08'
  | 't' => some '\t'
  | '\t' => some '\t'
  | 'n' => some '\n'
  | 'v' => some '\x0b'
  | 'f' => some '\x0c'
  | 'r' => some '\r'
  | 'e' => some '\x1b'
  | ' ' => some ' '
  | '"' => some '"'
  | '\\' => some '\\'
  | '/' => some '/'
  | 'N' => some '\x85'
  | '_' => some '\xa0'
  | 'L' => some '\u2028'
  | 'P' => some '\u2029'
  | _ => none

/-- The number of hexadecimal digits of a numeric escape. -/
def escapeWidth (c : Char) : Option Nat :=
  match c with
  | 'x' => some 2
  | 'u' => some 4
  | 'U' => some 8
  | _ => none

/-- The character of a code point; a surrogate, which escapes never pair, is kept as
its stand-in, and a number past `U+10FFFF` is an error. -/
def codeChar (n : Nat) : Scan Char := do
  if n > 0x10FFFF then throw (.raised "ValueError" "chr() arg not in range(0x110000)")
  if 0xD800 ≤ n && n ≤ 0xDFFF then return Text.standIn n
  return Char.ofNat n

/-- Line breaks inside a quoted scalar; a document marker there is an error. -/
def scanQuotedBreaks : Scan (List String) := do
  let mut chunks : List String := []
  for _ in List.range (← get).fuel do
    let a ← ahead 3
    if (a == "---" || a == "...") && isBlankOrEnd (← peek 3) then throw .invalid
    skipWhile fun c => c == ' ' || c == '\t'
    if isBreakChar (← peek 0) then chunks := chunks ++ [← scanLineBreak] else return chunks
  return chunks

/-- The text of a quoted scalar up to its next blank, break or closing quote. -/
def scanQuotedText (double : Bool) : Scan (List String) := do
  let mut chunks : List String := []
  for _ in List.range (← get).fuel do
    let n ← lengthWhile (fun c => !(c == '\'' || c == '"' || c == '\\' || isBlankOrEnd c)) 0
    if n > 0 then
      chunks := chunks ++ [← ahead n]
      forward n
    let c ← peek 0
    if !double && c == '\'' && (← peek 1) == '\'' then
      chunks := chunks ++ ["'"]
      forward 2
    else if (double && c == '\'') || (!double && (c == '"' || c == '\\')) then
      chunks := chunks ++ [c.toString]
      forward 1
    else if double && c == '\\' then
      forward 1
      let e ← peek 0
      match escapeReplacement e, escapeWidth e with
      | some r, _ =>
        chunks := chunks ++ [r.toString]
        forward 1
      | none, some w =>
        forward 1
        for k in List.range w do
          if !isHexChar (← peek k) then throw .invalid
        let ch ← codeChar (hexNumber (← ahead w))
        chunks := chunks ++ [ch.toString]
        forward w
      | none, none =>
        if isBreakChar e then
          discard scanLineBreak
          chunks := chunks ++ (← scanQuotedBreaks)
        else throw .invalid
    else return chunks
  return chunks

/-- Blanks and line breaks inside a quoted scalar, folded: one line break becomes a
space, more keep all but the first. -/
def scanQuotedSpaces : Scan (List String) := do
  let n ← lengthWhile (fun c => c == ' ' || c == '\t') 0
  let blanks ← ahead n
  forward n
  let c ← peek 0
  if c == '\x00' then throw .invalid
  if isBreakChar c then
    let lineBreak ← scanLineBreak
    let breaks ← scanQuotedBreaks
    let first := if lineBreak != "\n" then [lineBreak] else if breaks.isEmpty then [" "] else []
    return first ++ breaks
  return [blanks]

/-- A single- or double-quoted scalar. -/
def scanQuoted (double : Bool) : Scan Tok := do
  let quote ← peek 0
  forward 1
  let mut chunks ← scanQuotedText double
  for _ in List.range (← get).fuel do
    if (← peek 0) == quote then break
    chunks := chunks ++ (← scanQuotedSpaces)
    chunks := chunks ++ (← scanQuotedText double)
  forward 1
  return .scalar (String.join chunks) false

/-! ## Plain scalars -/

/-- Blanks and line breaks after a piece of a plain scalar, folded as in quoted
scalars; `none` when a document marker follows a line break. -/
def scanPlainSpaces : Scan (Option (List String)) := do
  let n ← lengthWhile (· == ' ') 0
  let blanks ← ahead n
  forward n
  if isBreakChar (← peek 0) then
    let lineBreak ← scanLineBreak
    allowKey true
    let a ← ahead 3
    if (a == "---" || a == "...") && isBlankOrEnd (← peek 3) then return none
    let mut breaks : List String := []
    for _ in List.range (← get).fuel do
      let c ← peek 0
      if !(c == ' ' || isBreakChar c) then break
      if c == ' ' then forward 1
      else
        breaks := breaks ++ [← scanLineBreak]
        let a ← ahead 3
        if (a == "---" || a == "...") && isBlankOrEnd (← peek 3) then return none
    let first := if lineBreak != "\n" then [lineBreak] else if breaks.isEmpty then [" "] else []
    return some (first ++ breaks)
  return some (if blanks.isEmpty then [] else [blanks])

/-- Whether a plain scalar ends at the `k`-th character ahead. -/
def plainEndsAt (flow : Bool) (s : Scanner) (k : Nat) : Bool :=
  let c := s.charAt k
  isBlankOrEnd c ||
    (c == ':' && (isBlankOrEnd (s.charAt (k + 1)) || (flow && ",[]\x7b\x7d".contains (s.charAt (k + 1))))) ||
    (flow && ",?[]\x7b\x7d".contains c)

/-- The position of the first character from the `k`-th on where a plain scalar ends. -/
def plainLength (flow : Bool) (s : Scanner) : Nat → Nat → Nat
  | 0, k => k
  | fuel + 1, k => if plainEndsAt flow s k then k else plainLength flow s fuel (k + 1)

/-- A plain scalar: pieces separated by folded blanks, ending before a comment, an
indicator that ends it, or a line indented less than the enclosing block. -/
def scanPlain : Scan Tok := do
  let s0 ← get
  let indent := s0.indent + 1
  let flow := s0.flowLevel != 0
  let mut chunks : List String := []
  let mut spaces : List String := []
  for _ in List.range s0.fuel do
    if (← peek 0) == '#' then break
    let s ← get
    let n := plainLength flow s s.fuel 0
    if n == 0 then break
    allowKey false
    chunks := chunks ++ spaces ++ [← ahead n]
    forward n
    let more ← scanPlainSpaces
    match more with
    | none => break
    | some sp =>
      spaces := sp
      if sp.isEmpty || (← peek 0) == '#' || (!flow && ((← get).column : Int) < indent) then break
  return .scalar (String.join chunks) true

/-! ## Fetching tokens -/

/-- Reads a `---` or `...` marker. -/
def fetchDocumentIndicator (t : Tok) : Scan Unit := do
  unwindIndent (-1)
  removeSimpleKey
  allowKey false
  forward 3
  push t

/-- Reads `[` or `{`. -/
def fetchFlowStart (t : Tok) : Scan Unit := do
  saveSimpleKey
  modify fun s => { s with flowLevel := s.flowLevel + 1 }
  allowKey true
  forward 1
  push t

/-- Reads `]` or `}`. -/
def fetchFlowEnd (t : Tok) : Scan Unit := do
  removeSimpleKey
  modify fun s => { s with flowLevel := s.flowLevel - 1 }
  allowKey false
  forward 1
  push t

/-- Reads `-` before a block sequence entry. -/
def fetchBlockEntry : Scan Unit := do
  let s ← get
  if s.flowLevel == 0 then
    if !s.allowSimpleKey then throw .invalid
    if (← addIndent s.column) then push .blockSequenceStart
  allowKey true
  removeSimpleKey
  forward 1
  push .blockEntry

/-- Reads `?` before an explicit key. -/
def fetchKey : Scan Unit := do
  let s ← get
  if s.flowLevel == 0 then
    if !s.allowSimpleKey then throw .invalid
    if (← addIndent s.column) then push .blockMappingStart
  allowKey (s.flowLevel == 0)
  removeSimpleKey
  forward 1
  push .key

/-- Inserts a token into the queue at position `i`. -/
def insertToken (i : Nat) (t : Tok) : Scan Unit :=
  modify fun s => { s with tokens := s.tokens.take i ++ [t] ++ s.tokens.drop i }

/-- Reads `:` after a key: a pending simple key becomes a key token (opening a block
mapping at its column when needed). -/
def fetchValue : Scan Unit := do
  let s ← get
  match s.simpleKeys.find? (·.1 == s.flowLevel) with
  | some (_, k) =>
    set { s with simpleKeys := s.simpleKeys.filter (·.1 != s.flowLevel) }
    let i := k.tokenNumber - s.tokensTaken
    insertToken i .key
    if s.flowLevel == 0 then
      if (← addIndent k.column) then insertToken i .blockMappingStart
    allowKey false
  | none =>
    if s.flowLevel == 0 then
      if !s.allowSimpleKey then throw .invalid
      if (← addIndent s.column) then push .blockMappingStart
    allowKey (s.flowLevel == 0)
    removeSimpleKey
  forward 1
  push .value

/-- Reads the end of the stream. -/
def fetchStreamEnd : Scan Unit := do
  unwindIndent (-1)
  removeSimpleKey
  modify fun s => { s with allowSimpleKey := false, simpleKeys := [] }
  push .streamEnd
  modify fun s => { s with done := true }

/-- Whether the text at the current position starts a plain scalar. -/
def startsPlain : Scan Bool := do
  let s ← get
  let c := s.charAt 0
  let next := s.charAt 1
  return !(isBlankOrEnd c || "-?:,[]\x7b\x7d#&*!|>'\"%@`".contains c) ||
    (!isBlankOrEnd next && (c == '-' || (s.flowLevel == 0 && (c == '?' || c == ':'))))

/-- Reads the next token (or tokens) into the queue. -/
def fetchMoreTokens : Scan Unit := do
  scanToNextToken
  staleSimpleKeys
  unwindIndent ((← get).column : Int)
  let s ← get
  let c := s.charAt 0
  let atLineStart := s.column == 0
  let marker (m : String) : Bool :=
    atLineStart && String.ofList ((List.range 3).map s.charAt) == m && isBlankOrEnd (s.charAt 3)
  let flow := s.flowLevel != 0
  if c == '\x00' then fetchStreamEnd
  else if c == '%' && atLineStart then do
    unwindIndent (-1)
    removeSimpleKey
    allowKey false
    push (← scanDirective)
  else if c == '-' && marker "---" then fetchDocumentIndicator .documentStart
  else if c == '.' && marker "..." then fetchDocumentIndicator .documentEnd
  else if c == '[' then fetchFlowStart .flowSequenceStart
  else if c == '\x7b' then fetchFlowStart .flowMappingStart
  else if c == ']' then fetchFlowEnd .flowSequenceEnd
  else if c == '\x7d' then fetchFlowEnd .flowMappingEnd
  else if c == ',' then do
    allowKey true
    removeSimpleKey
    forward 1
    push .flowEntry
  else if c == '-' && isBlankOrEnd (s.charAt 1) then fetchBlockEntry
  else if c == '?' && (flow || isBlankOrEnd (s.charAt 1)) then fetchKey
  else if c == ':' && (flow || isBlankOrEnd (s.charAt 1)) then fetchValue
  else if c == '*' || c == '&' then do
    saveSimpleKey
    allowKey false
    let name ← scanAnchorName
    push (if c == '*' then .alias name else .anchor name)
  else if c == '!' then do
    saveSimpleKey
    allowKey false
    push (← scanTag)
  else if (c == '|' || c == '>') && !flow then do
    allowKey true
    removeSimpleKey
    push (← scanBlockScalar (c == '>'))
  else if c == '\'' || c == '"' then do
    saveSimpleKey
    allowKey false
    push (← scanQuoted (c == '"'))
  else if (← startsPlain) then do
    saveSimpleKey
    allowKey false
    push (← scanPlain)
  else throw .invalid

/-- Whether more tokens must be read before the next one can be handed out: none is
queued, or the first queued one may still turn out to follow a key. -/
def needMoreTokens : Scan Bool := do
  let s ← get
  if s.done then return false
  if s.tokens.isEmpty then return true
  staleSimpleKeys
  let s ← get
  return (s.simpleKeys.map (·.2.tokenNumber)).min? == some s.tokensTaken

/-- Reads tokens until the next one can be handed out. -/
def fillTokens : Nat → Scan Unit
  | 0 => throw .invalid
  | n + 1 => do
    if (← needMoreTokens) then
      fetchMoreTokens
      fillTokens n
    else pure ()

/-- The next token, without taking it. -/
def peekToken : Scan (Option Tok) := do
  fillTokens (← get).fuel
  return (← get).tokens.head?

/-- Takes the next token. -/
def takeToken : Scan (Option Tok) := do
  fillTokens (← get).fuel
  let s ← get
  match s.tokens with
  | t :: rest =>
    set { s with tokens := rest, tokensTaken := s.tokensTaken + 1 }
    return some t
  | [] => return none

end IacLint.Yaml
