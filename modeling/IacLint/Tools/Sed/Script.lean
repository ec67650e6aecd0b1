import IacLint.Text.Regex

/-!
# Stream editor scripts

A script of the stream editor is a list of commands, each with up to two addresses
that select the lines it applies to. This module holds what a script is and how its
text is read.

The text is read as the editor reads it: command after command, `;`, blanks and line
feeds between them. Addresses are a line number, `$` (the last line), `FIRST~STEP`, or
a regular expression `/RE/` (`\cREc` with another delimiter) with the flags `I` and
`M`; a second address after a comma may also be `+N` (`N` more lines) or `~N` (up to
a multiple of `N`), and `0,/RE/` lets the expression end the range on the first line.
A `!` after the addresses inverts them.

The commands are the editor's own: `{ }` group commands, `s` replaces, `y` maps
characters, `a i c` add text, `b t T` branch to a `:label`, and one letter each for
printing, deleting, reading the next line and working with the hold space.

Text is a list of characters, one per byte, as the editor sees it in the C locale. A
mistake in a script is reported with where it was found: the expression's number and
how many characters of it were read, or the script file's name and line.

## Main definitions

* `Command`, `Entry`, `Script` — a script read
* `readScript` — reads the text of a script, or gives the complaint
-/

namespace IacLint.Tools.Sed

open IacLint.Text

/-- A regular expression of a script with the way it matches. -/
structure Pattern where
  regex : Regex
  groups : Nat
  mode : MatchMode

/-- An address: which lines a command applies to. -/
inductive Address where
  /-- The line with this number; `0` only starts a range ended by an expression. -/
  | line (n : Nat)
  /-- `FIRST~STEP`: line `FIRST` and every `STEP`th line after it. -/
  | every (first step : Nat)
  /-- `$`: the last line. -/
  | last
  /-- The lines an expression matches; the expression used last when none is given. -/
  | matching (p : Option Pattern)

/-- The second address of a range: where it ends. -/
inductive RangeEnd where
  | address (a : Address)
  /-- `+N`: `N` lines after the first. -/
  | plus (n : Nat)
  /-- `~N`: up to the next line whose number is a multiple of `N`. -/
  | multiple (n : Nat)

/-- A change of case in a replacement. -/
inductive CaseChange where
  /-- `\U`, `\L`: what follows in upper or lower case. -/
  | upper | lower
  /-- `\u`, `\l`: the next character in upper or lower case. -/
  | upperNext | lowerNext
  /-- `\E`: case left as it is. -/
  | stop
  deriving BEq

/-- A piece of a replacement. -/
inductive Piece where
  | text (cs : List Char)
  /-- The text a group matched; group 0 is the whole match (`&`). -/
  | group (k : Nat)
  | caseChange (c : CaseChange)

/-- The `s` command. -/
structure Substitution where
  /-- The expression; the one used last when none is given. -/
  pattern : Option Pattern
  replacement : List Piece
  global : Bool := false
  /-- Which match is replaced first (the `N` flag). -/
  occurrence : Nat := 1
  print : Bool := false
  writeTo : Option String := none

/-- A branch: always (`b`), after a replacement (`t`), or after none (`T`). -/
inductive BranchKind where
  | always | replaced | notReplaced

/-- A command of the stream editor. -/
inductive Command where
  /-- `{`: the commands up to the matching `}`, whose place is given. -/
  | blockStart (close : Nat)
  | blockEnd
  | label (name : String)
  /-- A branch to a label; the empty label is the end of the script. -/
  | branch (kind : BranchKind) (target : String)
  /-- `=`: writes the line number. -/
  | lineNumber
  /-- `d`: deletes the pattern space and starts the next cycle. -/
  | delete
  /-- `D`: deletes the first line of the pattern space, and starts the cycle again
  with the rest when there is any. -/
  | deleteFirst
  /-- `F`: writes the name of the input file. -/
  | fileName
  /-- `g`, `G`: copies or appends the hold space to the pattern space. -/
  | get | getAppend
  /-- `h`, `H`: copies or appends the pattern space to the hold space. -/
  | hold | holdAppend
  /-- `x`: exchanges the two spaces. -/
  | exchange
  /-- `l`: writes the pattern space unambiguously, lines wrapped at a width. -/
  | list (width : Option Nat)
  /-- `n`, `N`: replaces the pattern space with the next line, or appends it. -/
  | next | appendNext
  /-- `p`, `P`: writes the pattern space, or its first line. -/
  | print | printFirst
  /-- `q`, `Q`: ends the run with a status, writing the pattern space or not. -/
  | quit (status : Nat) (silently : Bool)
  /-- `a`, `i`, `c`: text written after the cycle, now, or in place of the lines. -/
  | append (text : List Char) | insert (text : List Char) | change (text : List Char)
  /-- `r`, `R`: a file, or its next line, written after the cycle. -/
  | readFile (path : String) | readLine (path : String)
  /-- `w`, `W`: writes the pattern space, or its first line, to a file. -/
  | write (path : String) | writeFirst (path : String)
  | substitute (s : Substitution)
  /-- `y`: maps characters to characters. -/
  | translate (pairs : List (Char × Char))
  /-- `z`: empties the pattern space. -/
  | zap
  /-- A command that does nothing here (`v`, `e`). -/
  | skip

/-- A command with its addresses. -/
structure Entry where
  first : Option Address := none
  rangeEnd : Option RangeEnd := none
  negated : Bool := false
  command : Command

/-- A script: its commands and whether it asks that lines not be written (`#n`). -/
structure Script where
  entries : Array Entry := #[]
  quiet : Bool := false

/-! ### Reading -/

/-- Where the text being read came from: the `N`th expression, or a script file. -/
inductive Origin where
  | expression (n : Nat)
  | file (name : String)

/-- The text left to read and where it stands. -/
structure Reader where
  rest : List Char
  /-- Characters read of this piece of text. -/
  read : Nat := 0
  line : Nat := 1
  origin : Origin

/-- Reading a script: the text left, or the complaint about it. -/
abbrev ScriptM := StateT Reader (Except String)

/-- How the reader may read a script. -/
structure Dialect where
  extended : Bool := false
  sandbox : Bool := false

/-- The next character, if any is left. -/
def nextChar : ScriptM (Option Char) :=
  modifyGet fun r =>
    match r.rest with
    | [] => (none, r)
    | c :: cs => (some c, { r with rest := cs, read := r.read + 1,
                                   line := if c = '\n' then r.line + 1 else r.line })

/-- Puts a character back. -/
def unread : Option Char → ScriptM Unit
  | none => pure ()
  | some c => modify fun r => { r with rest := c :: r.rest, read := r.read - 1,
                                       line := if c = '\n' then r.line - 1 else r.line }

/-- The complaint about the text, with where it was found. -/
def failWith (message : String) : Reader → String
  | { origin := .expression n, read, .. } =>
    "-e expression #" ++ toString n ++ ", char " ++ toString read ++ ": " ++ message
  | { origin := .file name, line, .. } => "file " ++ name ++ " line " ++ toString line ++ ": " ++ message

/-- Fails with a complaint about the text. -/
def fail {α : Type} (message : String) : ScriptM α := do
  throw (failWith message (← get))

/-- Whether a character is a blank: a space or a tab. -/
def isBlankChar (c : Char) : Bool := c = ' ' || c = '\t'

/-- Whether a character is white space. -/
def isSpaceChar (c : Char) : Bool :=
  c = ' ' || c = '\t' || c = '\n' || c = '\r' || c = '\x0b' || c = '\x0c'

/-- The fuel reading the rest of the text takes. -/
def restFuel : ScriptM Nat := do return (← get).rest.length + 1

/-- The next character that is not a blank. -/
def nextNonblank : ScriptM (Option Char) := do
  let rec go : Nat → ScriptM (Option Char)
    | 0 => return none
    | n + 1 => do
      match ← nextChar with
      | some c => if isBlankChar c then go n else return some c
      | none => return none
  go (← restFuel)

/-- Reads the digits after `first`: the number, the character after them put back. -/
def readNumber (first : Option Char) : ScriptM Nat := do
  let rec go : Nat → Nat → Option Char → ScriptM Nat
    | 0, n, _ => return n
    | fuel + 1, n, c =>
      match c with
      | some d =>
        if d.isDigit then do go fuel (n * 10 + (d.toNat - '0'.toNat)) (← nextChar)
        else do unread c; return n
      | none => return n
  go (← restFuel) 0 first

/-- The end of a command: blanks, then `;`, a line feed or the end; `}` and `#` are
left to be read. -/
def endOfCommand : ScriptM Unit := do
  let c ← nextNonblank
  match c with
  | some '\x7d' | some '#' => unread c
  | none | some '\n' | some ';' => pure ()
  | _ => fail "extra characters after command"

/-- Reads up to a delimiter: the text, or nothing when the line or the text ends
first. In an expression (`regex`) `\n` is a line feed and a bracket expression may hold
the delimiter; elsewhere `\&` keeps its backslash. An escaped delimiter stands for
itself. -/
def readDelimited (delim : Char) (regex : Bool) : ScriptM (Option (List Char)) := do
  let rec go : Nat → Bool → List Char → ScriptM (Option (List Char))
    | 0, _, _ => return none
    | fuel + 1, inBracket, acc => do
      match ← nextChar with
      | none => return none
      | some '\n' => do unread (some '\n'); return none
      | some c =>
        if inBracket then
          if c = ']' then go fuel false (c :: acc)
          else if c = '[' then
            match (← get).rest with
            | d :: _ =>
              if d = ':' || d = '.' || d = '=' then do
                -- a class such as `[:alpha:]` stands whole inside the bracket
                let body := (← get).rest.drop 1
                let name := body.takeWhile fun x => x ≠ d && x ≠ '\n'
                match body.drop name.length with
                | x :: ']' :: _ =>
                  if x = d then do
                    let taken := d :: name ++ [d, ']']
                    for _ in taken do
                      let _ ← nextChar
                    go fuel true (taken.reverse ++ c :: acc)
                  else go fuel true (c :: acc)
                | _ => go fuel true (c :: acc)
              else go fuel true (c :: acc)
            | [] => go fuel true (c :: acc)
          else if c = '\\' then
            match ← nextChar with
            | none => return none
            | some 'n' => go fuel true ('\n' :: acc)
            | some '\n' => go fuel true ('\n' :: acc)
            | some d => go fuel true (d :: '\\' :: acc)
          else go fuel true (c :: acc)
        else if c = delim then return some acc.reverse
        else if c = '\\' then
          match ← nextChar with
          | none => return none
          | some d =>
            if d = 'n' && regex then go fuel false ('\n' :: acc)
            else if d = '\n' then go fuel false ('\n' :: acc)
            else if d = delim && !(!regex && d = '&') then go fuel false (d :: acc)
            else go fuel false (d :: '\\' :: acc)
        else if c = '[' && regex then
          -- a `]` right after the opening (or after `^`) is a member
          let r := (← get).rest
          match r with
          | '^' :: ']' :: _ => do
            let _ ← nextChar
            let _ ← nextChar
            go fuel true (']' :: '^' :: c :: acc)
          | ']' :: _ => do
            let _ ← nextChar
            go fuel true (']' :: c :: acc)
          | '^' :: _ => do
            let _ ← nextChar
            go fuel true ('^' :: c :: acc)
          | _ => go fuel true (c :: acc)
        else go fuel false (c :: acc)
  go (← restFuel) false []

/-- The value of a hexadecimal digit. -/
def hexValue? (c : Char) : Option Nat :=
  if c.isDigit then some (c.toNat - '0'.toNat)
  else if 'a' ≤ c && c ≤ 'f' then some (c.toNat - 'a'.toNat + 10)
  else if 'A' ≤ c && c ≤ 'F' then some (c.toNat - 'A'.toNat + 10)
  else none

/-- Reads up to `count` digits of a base: their value and the text after, or nothing
when there is no digit. -/
def readDigits (base count : Nat) (cs : List Char) : Option (Nat × List Char) :=
  let digit (c : Char) : Option Nat := (hexValue? c).bind fun v => if v < base then some v else none
  let ds := (cs.take count).takeWhile fun c => (digit c).isSome
  if ds.isEmpty then none
  else some (ds.foldl (fun n c => n * base + (digit c).getD 0) 0, cs.drop ds.length)

/-- The character an escape stands for when it is one of the editor's: `\a \f \n \r
\t \v`, `\cX`, `\dNNN`, `\oNNN` and `\xHH`; the escape's letter and what follows it are
given, and the character and the text after it come back. -/
def escapeChar? : List Char → Option (Char × List Char)
  | 'a' :: rest => some ('\x07', rest)
  | 'f' :: rest => some ('\x0c', rest)
  | 'n' :: rest => some ('\n', rest)
  | 'r' :: rest => some ('\r', rest)
  | 't' :: rest => some ('\t', rest)
  | 'v' :: rest => some ('\x0b', rest)
  | 'c' :: x :: rest => some (Char.ofNat ((x.toUpper.toNat ^^^ 0x40) % 256), rest)
  | 'd' :: rest => (readDigits 10 3 rest).map fun (v, r) => (Char.ofNat (v % 256), r)
  | 'o' :: rest => (readDigits 8 3 rest).map fun (v, r) => (Char.ofNat (v % 256), r)
  | 'x' :: rest => (readDigits 16 2 rest).map fun (v, r) => (Char.ofNat (v % 256), r)
  | _ => none

/-- The text of an expression with the editor's escapes replaced by the characters
they stand for; a character that is special there is kept literal. -/
def expressionText (extended : Bool) (cs : List Char) : List Char :=
  let rec go : Nat → List Char → List Char
    | 0, cs => cs
    | _ + 1, [] => []
    | fuel + 1, '\\' :: rest =>
      match escapeChar? rest with
      | some (c, after) =>
        let special := "^$.*[]\\".toList.contains c || (extended && "+?()\x7b\x7d|".toList.contains c)
        (if special then ['[', c, ']'] else [c]) ++ go fuel after
      | none =>
        match rest with
        | d :: after => '\\' :: d :: go fuel after
        | [] => ['\\']
    | fuel + 1, c :: rest => c :: go fuel rest
  go (cs.length + 1) cs

/-- Text with escapes read: the editor's escapes, and a backslash before any other
character dropped. -/
def plainText (cs : List Char) : List Char :=
  let rec go : Nat → List Char → List Char
    | 0, cs => cs
    | _ + 1, [] => []
    | fuel + 1, '\\' :: rest =>
      match escapeChar? rest with
      | some (c, after) => c :: go fuel after
      | none =>
        match rest with
        | d :: after => d :: go fuel after
        | [] => []
    | fuel + 1, c :: rest => c :: go fuel rest
  go (cs.length + 1) cs

/-- Reads a replacement into its pieces, and the greatest group it names. -/
def readReplacement (cs : List Char) : List Piece × Nat :=
  let rec go : Nat → List Char → List Char → List Piece × Nat
    | 0, _, acc => ([.text acc.reverse], 0)
    | _ + 1, [], acc => ([.text acc.reverse], 0)
    | fuel + 1, '&' :: rest, acc =>
      let (ps, k) := go fuel rest []
      (.text acc.reverse :: .group 0 :: ps, k)
    | fuel + 1, '\\' :: d :: rest, acc =>
      let change (c : CaseChange) :=
        let (ps, k) := go fuel rest []
        (.text acc.reverse :: .caseChange c :: ps, k)
      if d.isDigit then
        let n := d.toNat - '0'.toNat
        let (ps, k) := go fuel rest []
        (.text acc.reverse :: .group n :: ps, max n k)
      else if d = 'U' then change .upper
      else if d = 'L' then change .lower
      else if d = 'u' then change .upperNext
      else if d = 'l' then change .lowerNext
      else if d = 'E' then change .stop
      else if d = '&' then go fuel rest ('&' :: acc)
      else if d = '\n' then go fuel rest ('\n' :: acc)
      else
        match escapeChar? (d :: rest) with
        | some (c, after) => go fuel after (c :: acc)
        | none => go fuel rest (d :: acc)
    | fuel + 1, ['\\'], acc => go fuel [] ('\\' :: acc)
    | fuel + 1, c :: rest, acc => go fuel rest (c :: acc)
  go (cs.length + 1) cs []

/-- The characters a `y` command maps: `\\` is a backslash, `\n` a line feed, other
escapes as elsewhere, and a backslash before any other character is dropped. -/
def translateText (cs : List Char) : List Char :=
  let rec go : Nat → List Char → List Char
    | 0, cs => cs
    | _ + 1, [] => []
    | fuel + 1, '\\' :: '\\' :: rest => '\\' :: go fuel rest
    | fuel + 1, '\\' :: rest =>
      match escapeChar? rest with
      | some (c, after) => c :: go fuel after
      | none =>
        match rest with
        | d :: after => d :: go fuel after
        | [] => ['\\']
    | fuel + 1, c :: rest => c :: go fuel rest
  go (cs.length + 1) cs

/-- Compiles the text of an expression with its flags: none for the empty
expression, which stands for the one used last. -/
def compilePattern (d : Dialect) (text : List Char) (icase multiline : Bool) :
    ScriptM (Option Pattern) := do
  if text.isEmpty then
    if icase || multiline then fail "cannot specify modifiers on empty regexp"
    else return none
  else
    match parseRegexIn { extended := d.extended, strictRepeats := !d.extended }
        (String.ofList (expressionText d.extended text)) with
    | .ok (r, g) => return some { regex := r, groups := g, mode := { icase, multiline } }
    | .error e => fail e

/-- Reads the flags after an address's expression: `I` (ignore case) and `M` (lines
one by one), blanks between them. -/
def readAddressFlags : Nat → Bool → Bool → ScriptM (Bool × Bool)
  | 0, i, m => return (i, m)
  | n + 1, i, m => do
    let f ← nextNonblank
    match f with
    | some 'I' => readAddressFlags n true m
    | some 'M' => readAddressFlags n i true
    | _ => do unread f; return (i, m)

/-- Reads an address starting with `c`: an address, or `+N` and `~N` as a range's
end, or nothing when `c` starts none. -/
def readAddress (d : Dialect) (c : Option Char) : ScriptM (Option RangeEnd) := do
  match c with
  | some '/' | some '\\' =>
    let delim ← if c == some '\\' then nextChar else pure (some '/')
    match delim with
    | none => fail "unterminated address regex"
    | some dc =>
      match ← readDelimited dc true with
      | none => fail "unterminated address regex"
      | some text =>
        let (icase, multiline) ← readAddressFlags (← restFuel) false false
        let p ← compilePattern d text icase multiline
        return some (.address (.matching p))
  | some '$' => return some (.address .last)
  | some '+' | some '~' =>
    let n ← readNumber (← nextNonblank)
    return some (if c == some '+' then .plus n else .multiple n)
  | some x =>
    if x.isDigit then
      let n ← readNumber c
      let after ← nextNonblank
      if after == some '~' then
        let step ← readNumber (← nextNonblank)
        return some (.address (if step > 0 then .every n step else .line n))
      else
        unread after
        return some (.address (.line n))
    else return none
  | none => return none

/-- Reads a label: after blanks, up to white space, `;`, `#`, `}` or the end. -/
def readLabel : ScriptM String := do
  let first ← nextNonblank
  let rec go : Nat → Option Char → List Char → ScriptM String
    | 0, _, acc => return String.ofList acc.reverse
    | fuel + 1, c, acc =>
      match c with
      | some x =>
        if isSpaceChar x || x = ';' then return String.ofList acc.reverse
        else if x = '#' || x = '\x7d' then do unread c; return String.ofList acc.reverse
        else do go fuel (← nextChar) (x :: acc)
      | none => return String.ofList acc.reverse
  go (← restFuel) first []

/-- Reads a file name: after blanks, the rest of the line. -/
def readFileName (d : Dialect) : ScriptM String := do
  if d.sandbox then fail "e/r/w commands disabled in sandbox mode"
  else
    let first ← nextNonblank
    let rec go : Nat → Option Char → List Char → ScriptM String
      | 0, _, acc => return String.ofList acc.reverse
      | fuel + 1, c, acc =>
        match c with
        | some '\n' | none => return String.ofList acc.reverse
        | some x => do go fuel (← nextChar) (x :: acc)
    let name ← go (← restFuel) first []
    if name.isEmpty then fail "missing filename in r/R/w/W commands" else return name

/-- Reads the text of `a`, `i` or `c` after the character that leads it in: up to the
end of the line, a backslash before a line feed going on to the next; escapes are then
read. Nothing when the text is to come from the next piece of the script. -/
def readText (leadin : Option Char) : ScriptM (Option (List Char)) := do
  match leadin with
  | none => return none
  | some l =>
    let start := if l = '\n' then [] else [l]
    let rec go : Nat → List Char → ScriptM (List Char)
      | 0, acc => return acc
      | fuel + 1, acc => do
        match ← nextChar with
        | none | some '\n' => return acc
        | some '\\' =>
          match ← nextChar with
          | none => return acc
          | some x => go fuel (x :: '\\' :: acc)
        | some x => go fuel (x :: acc)
    let raw ← go (← restFuel) start.reverse
    return some (plainText (raw.reverse ++ ['\n']))

/-- Reads the flags of `s`: the command with them, and the case and line flags of its
expression. -/
def readSubstFlags (d : Dialect) (s : Substitution) : ScriptM (Substitution × Bool × Bool) := do
  let rec go : Nat → Substitution → Bool → Bool → Bool → ScriptM (Substitution × Bool × Bool)
    | 0, s, i, m, _ => return (s, i, m)
    | fuel + 1, s, i, m, numbered => do
      let c ← nextChar
      match c with
      | some 'i' | some 'I' => go fuel s true m numbered
      | some 'm' | some 'M' => go fuel s i true numbered
      | some 'e' => go fuel s i m numbered
      | some 'p' =>
        if s.print then fail "multiple `p' options to `s' command"
        else go fuel { s with print := true } i m numbered
      | some 'g' =>
        if s.global then fail "multiple `g' options to `s' command"
        else go fuel { s with global := true } i m numbered
      | some 'w' => do
        let name ← readFileName d
        return ({ s with writeTo := some name }, i, m)
      | some '\x7d' | some '#' => do unread c; return (s, i, m)
      | some '\n' | some ';' | none => return (s, i, m)
      | some ' ' | some '\t' => go fuel s i m numbered
      | some x =>
        if x.isDigit then
          if numbered then fail "multiple number options to `s' command"
          else
            let n ← readNumber c
            if n = 0 then fail "number option to `s' command may not be zero"
            else go fuel { s with occurrence := n } i m true
        else fail "unknown option to `s'"
  go (← restFuel) s false false false

/-- What reading a script keeps between commands and pieces of text: the entries so
far, the places of the open `{`, with the reader at each for complaints, and a text
command waiting for its text from the next piece. -/
structure Reading where
  entries : Array Entry := #[]
  blocks : List (Nat × Reader) := []
  waiting : Bool := false
  quiet : Bool := false

/-- Reads one command after its first character `c` (not a `;` nor white space) and
adds it. -/
def readCommand (d : Dialect) (firstPiece : Bool) (st : Reading) (c : Char) : ScriptM Reading := do
  let atStart := (← get).read == 1
  let addr ← readAddress d (some c)
  let (first, rangeEnd, c) ← match addr with
    | none => pure (none, none, some c)
    | some (.plus _) | some (.multiple _) => fail "invalid usage of +N or ~N as first address"
    | some (.address a1) => do
      let c ← nextNonblank
      let (a2, c) ← if c == some ',' then do
          match ← readAddress d (← nextNonblank) with
          | none => fail "unexpected `,'"
          | some a2 => pure (some a2, ← nextNonblank)
        else pure (none, c)
      match a1, a2 with
      | .line 0, some (.address (.matching _)) => pure ()
      | .line 0, _ => fail "invalid usage of line address 0"
      | _, _ => pure ()
      pure (some a1, a2, c)
  let (negated, c) ← if c == some '!' then do
      let c ← nextNonblank
      if c == some '!' then fail "multiple `!'s" else pure (true, c)
    else pure (false, c)
  let addressed := first.isSome
  let addTo (st : Reading) (cmd : Command) : ScriptM Reading :=
    pure { st with entries := st.entries.push { first, rangeEnd, negated, command := cmd } }
  let add := addTo st
  match c with
  | none => fail "missing command"
  | some '#' =>
    if addressed then fail "comments don't accept any addresses"
    else
      let n ← nextChar
      let quiet ← if atStart && firstPiece && n == some 'n' then do
          let after ← nextChar
          unread after
          pure (after == some '\n' || after == none)
        else pure false
      let rec skipLine : Nat → ScriptM Unit
        | 0 => pure ()
        | k + 1 => do
          match ← nextChar with
          | none | some '\n' => pure ()
          | some _ => skipLine k
      unread n
      skipLine (← restFuel)
      return { st with quiet := st.quiet || quiet }
  | some '\x7b' =>
    let r ← get
    let st ← add (.blockStart 0)
    return { st with blocks := (st.entries.size - 1, r) :: st.blocks }
  | some '\x7d' =>
    match st.blocks with
    | [] => fail "unexpected `\x7d'"
    | (opener, _) :: outer =>
      if addressed then fail "`\x7d' doesn't want any addresses"
      else
        endOfCommand
        let here := st.entries.size
        let entries := st.entries.modify opener fun e => { e with command := .blockStart here }
        addTo { st with entries, blocks := outer } .blockEnd
  | some ':' =>
    if addressed then fail ": doesn't want any addresses"
    else
      let l ← readLabel
      if l.isEmpty then fail "\":\" lacks a label" else add (.label l)
  | some 'b' => do add (.branch .always (← readLabel))
  | some 't' => do add (.branch .replaced (← readLabel))
  | some 'T' => do add (.branch .notReplaced (← readLabel))
  | some 'a' | some 'i' | some 'c' =>
    let x ← nextNonblank
    match x with
    | none => fail "expected \\ after `a', `c' or `i'"
    | some x =>
      let leadin ← if x = '\\' then nextChar else do unread (some x); pure (some '\n')
      let text ← readText leadin
      let body := text.getD []
      let cmd : Command := if c == some 'a' then .append body else if c == some 'i' then .insert body else .change body
      let st ← add cmd
      return { st with waiting := text.isNone }
  | some 'q' | some 'Q' | some 'l' =>
    if c != some 'l' && rangeEnd.isSome then fail "command only uses one address"
    else
      let x ← nextNonblank
      let digit := x.any Char.isDigit
      let n ← if digit then (some <$> readNumber x) else pure none
      let x ← if digit then nextNonblank else pure x
      if x == some '\x7d' || x == some '#' then unread x
      else if !(x == none || x == some '\n' || x == some ';') then fail "extra characters after command"
      add (if c == some 'l' then .list n else .quit (n.getD 0) (c == some 'Q'))
  | some 'r' => do add (.readFile (← readFileName d))
  | some 'R' => do add (.readLine (← readFileName d))
  | some 'w' => do add (.write (← readFileName d))
  | some 'W' => do add (.writeFirst (← readFileName d))
  | some 'e' => do
    let _ ← readText (some '\n')
    add .skip
  | some 'v' => do
    let _ ← readLabel
    add .skip
  | some 's' =>
    let delim ← nextChar
    match delim with
    | none => fail "unterminated `s' command"
    | some dc =>
      match ← readDelimited dc true with
      | none => fail "unterminated `s' command"
      | some regexText =>
        match ← readDelimited dc false with
        | none => fail "unterminated `s' command"
        | some replText =>
          let (pieces, most) := readReplacement replText
          let (s, icase, multiline) ← readSubstFlags d { pattern := none, replacement := pieces }
          let p ← compilePattern d regexText icase multiline
          match p with
          | some pat =>
            if most > pat.groups then
              fail ("invalid reference \\" ++ toString most ++ " on `s' command's RHS")
            else add (.substitute { s with pattern := p })
          | none => add (.substitute { s with pattern := p })
  | some 'y' =>
    let delim ← nextChar
    match delim with
    | none => fail "unterminated `y' command"
    | some dc =>
      match ← readDelimited dc false with
      | none => fail "unterminated `y' command"
      | some src =>
        match ← readDelimited dc false with
        | none => fail "unterminated `y' command"
        | some dst =>
          let src := translateText src
          let dst := translateText dst
          if src.length != dst.length then fail "strings for `y' command are different lengths"
          else
            endOfCommand
            add (.translate (src.zip dst))
  | some x =>
    let simple : Option Command := match x with
      | '=' => some .lineNumber | 'd' => some .delete | 'D' => some .deleteFirst
      | 'F' => some .fileName | 'g' => some .get | 'G' => some .getAppend
      | 'h' => some .hold | 'H' => some .holdAppend | 'n' => some .next
      | 'N' => some .appendNext | 'p' => some .print | 'P' => some .printFirst
      | 'x' => some .exchange | 'z' => some .zap
      | _ => none
    match simple with
    | some cmd => do endOfCommand; add cmd
    | none => fail ("unknown command: `" ++ String.ofList [x] ++ "'")

/-- Reads the commands of one piece of text after what came before it. A text command
left waiting takes this piece's first line as its text. -/
def readPiece (d : Dialect) (firstPiece : Bool) (st : Reading) : ScriptM Reading := do
  let st ← if st.waiting then do
      let text ← readText (some '\n')
      let entries := st.entries.modify (st.entries.size - 1) fun e =>
        { e with command := match e.command with
          | .append _ => .append (text.getD [])
          | .insert _ => .insert (text.getD [])
          | .change _ => .change (text.getD [])
          | other => other }
      pure { st with entries, waiting := false }
    else pure st
  let rec go : Nat → Reading → ScriptM Reading
    | 0, st => return st
    | fuel + 1, st => do
      match ← nextChar with
      | none => return st
      | some c =>
        if c = ';' || isSpaceChar c then go fuel st
        else go fuel (← readCommand d firstPiece st c)
  go (← restFuel) st

/-- A piece of a script's text: an expression given on the command line or the text of
a script file. -/
structure ScriptPiece where
  text : List Char
  origin : Origin

/-- Reads a script from its pieces, or gives the complaint about it. A label branched
to must be defined, and every `{` closed. -/
def readScript (d : Dialect) (pieces : List ScriptPiece) : Except String Script := do
  let rec go : List ScriptPiece → Bool → Reading → Except String Reading
    | [], _, st => .ok st
    | p :: rest, firstPiece, st => do
      let (st, _) ← (readPiece d firstPiece st).run { rest := p.text, origin := p.origin }
      go rest false st
  let st ← go pieces true {}
  match st.blocks with
  | (_, r) :: _ => .error (failWith "unmatched `\x7b'" { r with read := 0 })
  | [] =>
    let labels := st.entries.toList.filterMap fun e =>
      match e.command with
      | .label l => some l
      | _ => none
    let missing := st.entries.toList.findSome? fun e =>
      match e.command with
      | .branch _ l => if l.isEmpty || labels.contains l then none else some l
      | _ => none
    match missing with
    | some l => .error ("can't find label for jump to `" ++ l ++ "'")
    | none => .ok { entries := st.entries, quiet := st.quiet }

end IacLint.Tools.Sed
