import IacLint.Shell.Syntax

/-!
# Reading shell scripts

A script is read one command line at a time, as a shell does, so that the commands
before a syntax error still run. Tokens are read in context:

* blanks separate words; a backslash before a line break joins two lines; a `#` that
  starts a word starts a comment;
* a word is text with quotes (`'…'`, `"…"`), backslash escapes and expansions (`$name`,
  `${…}`, `$(…)`, `` `…` ``, `$((…))`); digits right before `<` or `>` name the
  descriptor of a redirection;
* the reserved words (`if`, `then`, `for`, `{`, …) are words that stand where a command
  may start, unquoted;
* a here-document's text follows the line of its `<<`: it is taken out of the text at
  once, up to its delimiter line, and the lines it spanned are counted at that line's
  end.

Errors carry the line the reader had reached, and name the token found as the POSIX
shell does (`"fi" unexpected`, `word unexpected (expecting "do")`, `end of file
unexpected`).

## Main definitions

* `Lexer` — the text still to read
* `SyntaxError` — why a script cannot be read
* `nextLine` — the next command line of a script
* `readDocText` — the parts of a here-document's text
-/

namespace IacLint.Shell

/-- How an unexpected token is named in a complaint. -/
inductive TokenName where
  | endOfFile
  | newline
  /-- A word; the text is what the larger shell shows. -/
  | word (text : String)
  /-- A reserved word, an operator or a redirection, by its text. -/
  | symbol (text : String) (redirection : Bool)
  deriving Inhabited

/-- Why a script cannot be read. -/
inductive SyntaxError where
  /-- A token where it cannot stand, and what was expected there. -/
  | unexpected (line : Nat) (token : TokenName) (expecting : Option String)
  /-- A quote that is never closed, opened on line `start`. -/
  | unterminated (line : Nat) (quote : Char) (start : Nat)
  /-- A backquote that is never closed. -/
  | backquote (line start : Nat)
  /-- An arithmetic expansion without its closing `))`. -/
  | arithmetic (line start : Nat)
  /-- A `${` without its closing brace. -/
  | brace (line start : Nat)
  /-- A `$(` without its closing parenthesis. -/
  | substitution (line : Nat)
  /-- A `for` loop whose variable is no name. -/
  | forVariable (line : Nat)
  deriving Inhabited

/-- The line a syntax error is reported on. -/
def SyntaxError.line : SyntaxError → Nat
  | .unexpected l _ _ | .unterminated l _ _ | .backquote l _ | .arithmetic l _ | .brace l _
  | .substitution l | .forVariable l => l

/-- The text still to read: its characters, the line reached, the lines of here-documents
taken out of the text and not counted yet, and whether the larger shell's syntax is on. -/
structure Lexer where
  rest : List Char
  line : Nat := 1
  pending : Nat := 0
  bash : Bool := false
  deriving Inhabited

/-- Reading part of a script. -/
abbrev Scan := StateT Lexer (Except SyntaxError)

/-- Moves past `k` characters, counting their line breaks (and the lines pending at the
first of them). -/
def Lexer.skip (l : Lexer) (k : Nat) : Lexer :=
  let breaks := (l.rest.take k).count '\n'
  if breaks = 0 then { l with rest := l.rest.drop k }
  else { l with rest := l.rest.drop k, line := l.line + breaks + l.pending, pending := 0 }

/-- Moves past `k` characters. -/
def advance (k : Nat) : Scan Unit := modify (·.skip k)

/-- The characters still to read. -/
def remaining : Scan (List Char) := return (← get).rest

/-- Whether a character may start a name. -/
def isNameStart (c : Char) : Bool := c.isAlpha || c = '_'

/-- Whether a character may continue a name. -/
def isNameChar (c : Char) : Bool := c.isAlphanum || c = '_'

/-- Whether a text is a name. -/
def isName (s : String) : Bool :=
  match s.toList with
  | c :: rest => isNameStart c && rest.all isNameChar
  | [] => false

/-- The special parameters, named by one character. -/
def isSpecialParam (c : Char) : Bool := "@*#?-$!0".toList.contains c

/-- Whether a character ends a word outside quotes. -/
def endsPlainWord (c : Char) : Bool :=
  c = ' ' || c = '\t' || c = '\n' || c = ';' || c = '&' || c = '|' || c = '<' || c = '>' ||
    c = '(' || c = ')'

/-- Where a run of word parts ends. -/
inductive Mode where
  /-- A word outside quotes: at a blank or an operator character. -/
  | plain
  /-- Inside double quotes: at the closing quote. -/
  | double
  /-- The word of a `${…}` expansion: at an unquoted closing brace or one of `stops`;
  `dq` when the expansion stands inside double quotes. -/
  | braced (dq : Bool) (stops : List Char)
  /-- The text of a here-document or arithmetic expression: at its end. -/
  | doc
  deriving Inhabited

/-- Whether text read in a mode is quoted. -/
def Mode.quotes : Mode → Bool
  | .plain => false
  | .braced dq _ => dq
  | .double | .doc => true

/-- Whether plain text read in a mode is quoted. In the word of a `${…}` expansion it is
not: the expansion decides how its word is taken, as a pattern or as quoted text. -/
def Mode.textQuoted : Mode → Bool
  | .double | .doc => true
  | _ => false

/-- Appends text to a word, joining it to literal text of the same kind before it. -/
def addText (w : Word) (s : String) (quoted : Bool) : Word :=
  match w.reverse with
  | .lit t :: before => if quoted then w ++ [.quoted s] else (.lit (t ++ s) :: before).reverse
  | .quoted t :: before => if quoted then (.quoted (t ++ s) :: before).reverse else w ++ [.lit s]
  | _ => w ++ [if quoted then .quoted s else .lit s]

/-- The length of the text of a command substitution after its `$(`, up to the
parenthesis that closes it: nested parentheses are counted, and quotes and escapes
skipped. -/
def substitutionLength : Nat → Nat → List Char → Option Nat
  | 0, _, _ => none
  | _ + 1, _, [] => none
  | fuel + 1, depth, c :: rest =>
    match c with
    | ')' => if depth = 0 then some 0 else (substitutionLength fuel (depth - 1) rest).map (· + 1)
    | '(' => (substitutionLength fuel (depth + 1) rest).map (· + 1)
    | '\\' =>
      match rest with
      | _ :: more => (substitutionLength fuel depth more).map (· + 2)
      | [] => none
    | '\'' =>
      let inside := rest.takeWhile (· ≠ '\'')
      if inside.length < rest.length then
        (substitutionLength fuel depth (rest.drop (inside.length + 1))).map (· + inside.length + 2)
      else none
    | '"' => (quotedLength fuel rest).bind fun k =>
        (substitutionLength fuel depth (rest.drop k)).map (· + k + 1)
    | '`' =>
      let inside := rest.takeWhile (· ≠ '`')
      if inside.length < rest.length then
        (substitutionLength fuel depth (rest.drop (inside.length + 1))).map (· + inside.length + 2)
      else none
    | _ => (substitutionLength fuel depth rest).map (· + 1)
where
  /-- The length of the rest of a double-quoted text, with its closing quote. -/
  quotedLength : Nat → List Char → Option Nat
    | 0, _ => none
    | _ + 1, [] => none
    | _ + 1, '"' :: _ => some 1
    | fuel + 1, '\\' :: _ :: more => (quotedLength fuel more).map (· + 2)
    | fuel + 1, _ :: more => (quotedLength fuel more).map (· + 1)

/-- The length of the expression of an arithmetic expansion after its `$((`, up to the
`))` that closes it, nested parentheses counted. A lone `)` that closes nothing is part
of the expression in the POSIX shell (`lone`), and an error in the larger one. -/
def arithmeticLength (lone : Bool) : Nat → Nat → List Char → Option Nat
  | 0, _, _ => none
  | _ + 1, _, [] => none
  | fuel + 1, depth, c :: rest =>
    match c with
    | ')' =>
      if depth = 0 then
        if rest.head? = some ')' then some 0
        else if lone then (arithmeticLength lone fuel depth rest).map (· + 1)
        else none
      else (arithmeticLength lone fuel (depth - 1) rest).map (· + 1)
    | '(' => (arithmeticLength lone fuel (depth + 1) rest).map (· + 1)
    | _ => (arithmeticLength lone fuel depth rest).map (· + 1)

/-- The byte of a letter escape of `$'…'` text. -/
def ansiLetter? : Char → Option Char
  | 'n' => some '\n'
  | 't' => some '\t'
  | 'r' => some '\r'
  | 'a' => some '\x07'
  | 'b' => some '\x08'
  | 'e' => some '\x1b'
  | 'E' => some '\x1b'
  | 'f' => some '\x0c'
  | 'v' => some '\x0b'
  | '\\' => some '\\'
  | '\'' => some '\''
  | '"' => some '"'
  | '?' => some '?'
  | _ => none

/-- The value of a hexadecimal digit. -/
def hexValue? (c : Char) : Option Nat :=
  if '0' ≤ c && c ≤ '9' then some (c.toNat - 48)
  else if 'a' ≤ c && c ≤ 'f' then some (c.toNat - 87)
  else if 'A' ≤ c && c ≤ 'F' then some (c.toNat - 55)
  else none

/-- The text of `$'…'` after its opening quote: escapes replaced, up to the closing
quote; the text and the characters read, closing quote included. -/
def ansiText : Nat → List Char → Option (List Char × Nat)
  | 0, _ => none
  | _ + 1, [] => none
  | _ + 1, '\'' :: _ => some ([], 1)
  | fuel + 1, '\\' :: c :: rest =>
    match ansiLetter? c with
    | some e => (ansiText fuel rest).map fun (t, k) => (e :: t, k + 2)
    | none =>
      if '0' ≤ c && c ≤ '7' then
        let ds := (c :: rest).take 3 |>.takeWhile fun d => '0' ≤ d && d ≤ '7'
        let v := ds.foldl (fun acc d => acc * 8 + (d.toNat - 48)) 0
        (ansiText fuel ((c :: rest).drop ds.length)).map fun (t, k) =>
          (Char.ofNat (v % 256) :: t, k + 1 + ds.length)
      else if c = 'x' then
        let ds := (rest.take 2).takeWhile fun d => (hexValue? d).isSome
        if ds.isEmpty then (ansiText fuel rest).map fun (t, k) => ('\\' :: 'x' :: t, k + 2)
        else
          let v := ds.foldl (fun acc d => acc * 16 + (hexValue? d).getD 0) 0
          (ansiText fuel (rest.drop ds.length)).map fun (t, k) =>
            (Char.ofNat v :: t, k + 2 + ds.length)
      else (ansiText fuel rest).map fun (t, k) => ('\\' :: c :: t, k + 2)
  | fuel + 1, c :: rest => (ansiText fuel rest).map fun (t, k) => (c :: t, k + 1)

/-- The text of a backquoted command substitution after its opening backquote, with the
escapes `\$`, `` \` ``, `\\` (and `\"` inside double quotes) replaced; the text and the
characters read, closing backquote included. -/
def backquoteText (inDouble : Bool) : Nat → List Char → Option (List Char × Nat)
  | 0, _ => none
  | _ + 1, [] => none
  | _ + 1, '`' :: _ => some ([], 1)
  | fuel + 1, '\\' :: c :: rest =>
    if c = '$' || c = '`' || c = '\\' || (inDouble && c = '"') then
      (backquoteText inDouble fuel rest).map fun (t, k) => (c :: t, k + 2)
    else (backquoteText inDouble fuel (c :: rest)).map fun (t, k) => ('\\' :: t, k + 1)
  | fuel + 1, c :: rest => (backquoteText inDouble fuel rest).map fun (t, k) => (c :: t, k + 1)

mutual

/-- Reads the parts of a word in `mode` up to its end, after the parts `acc`. -/
def readParts (mode : Mode) : Nat → Word → Scan Word
  | 0, acc => return acc
  | n + 1, acc => do
    let l ← get
    match l.rest with
    | [] =>
      match mode with
      | .plain | .doc => return acc
      | .double => throw (.unterminated l.line '"' 0)
      | .braced _ _ => throw (.brace l.line 0)
    | c :: more =>
      let stop : Bool := match mode with
        | .plain => endsPlainWord c
        | .double => c = '"'
        | .braced _ stops => c = '\x7d' || stops.contains c
        | .doc => false
      if stop then
        match mode with
        | .double => do advance 1; return acc
        | _ => return acc
      else if c = '\\' then
        match more with
        | '\n' :: _ => do advance 2; readParts mode n acc
        | d :: _ =>
          let escapable : Bool := match mode with
            | .plain => true
            | .braced false _ => true
            | .braced true _ => d = '$' || d = '`' || d = '"' || d = '\\' || d = '\x7d'
            | .double => d = '$' || d = '`' || d = '"' || d = '\\'
            | .doc => d = '$' || d = '`' || d = '\\'
          if escapable then do
            advance 2
            readParts mode n (addText acc (String.ofList [d]) true)
          else do
            advance 1
            readParts mode n (addText acc "\\" mode.textQuoted)
        | [] => do
          advance 1
          readParts mode n (addText acc "\\" mode.textQuoted)
      else if c = '\'' && (match mode with | .plain | .braced false _ => true | _ => false) then
        let inside := more.takeWhile (· ≠ '\'')
        if inside.length < more.length then do
          advance (inside.length + 2)
          readParts mode n (acc ++ [.quoted (String.ofList inside)])
        else do
          advance (more.length + 1)
          throw (.unterminated (← get).line '\'' l.line)
      else if c = '"' && (match mode with | .plain | .braced _ _ => true | _ => false) then do
        advance 1
        let inner ← tryCatch (readParts .double n []) fun e =>
          match e with
          | .unterminated line q 0 => throw (.unterminated line q l.line)
          | other => throw other
        readParts mode n (acc ++ (if inner.isEmpty then [.quoted ""] else inner))
      else if c = '`' then
        match backquoteText (match mode with | .double | .braced true _ => true | _ => false)
            (more.length + 1) more with
        | some (text, k) => do
          let start := (← get).line
          advance (k + 1)
          readParts mode n (acc ++ [.command (String.ofList text) mode.quotes start])
        | none => do
          advance (more.length + 1)
          throw (.backquote (← get).line l.line)
      else if c = '$' then
        match mode, more with
        | .plain, '\'' :: rest =>
          if l.bash then
            match ansiText (rest.length + 1) rest with
            | some (text, k) => do
              advance (k + 2)
              readParts mode n (acc ++ [.quoted (String.ofList text)])
            | none => do
              advance (rest.length + 2)
              throw (.unterminated (← get).line '\'' l.line)
          else do
            advance 1
            readParts mode n (addText acc "$" false)
        | _, _ => do
          advance 1
          match ← readDollar mode.quotes n with
          | some p => readParts mode n (acc ++ [p])
          | none => readParts mode n (addText acc "$" mode.textQuoted)
      else do
        advance 1
        readParts mode n (addText acc (String.ofList [c]) mode.textQuoted)

/-- Reads what follows a `$`: an expansion, or nothing when the `$` stands for itself. -/
def readDollar (quoted : Bool) : Nat → Scan (Option Part)
  | 0 => return none
  | n + 1 => do
    let l ← get
    match l.rest with
    | '(' :: '(' :: rest =>
      match arithmeticLength (!l.bash) (rest.length + 1) 0 rest with
      | some k => do
        let inner := rest.take k
        advance (k + 4)
        let sub : Lexer := { rest := inner, line := l.line, bash := l.bash }
        match (readParts .doc n []).run sub with
        | .ok (parts, _) => return some (.arith parts quoted)
        | .error e => throw e
      | none => do
        advance (rest.length + 2)
        throw (.arithmetic (← get).line l.line)
    | '(' :: rest =>
      match substitutionLength (rest.length + 1) 0 rest with
      | some k => do
        advance (k + 2)
        return some (.command (String.ofList (rest.take k)) quoted l.line)
      | none => do
        advance (rest.length + 1)
        throw (.substitution (← get).line)
    | '\x7b' :: _ => do
      advance 1
      let start := (← get).rest
      let p ← tryCatch (readBraced quoted n) fun e =>
        match e with
        | .brace line 0 => throw (.brace line l.line)
        | other => throw other
      match p with
      | .param _ .invalid _ _ q =>
        let used := start.take (start.length - (← get).rest.length)
        return some (.param ("$\x7b" ++ String.ofList used) .invalid [] [] q)
      | _ => return some p
    | c :: rest =>
      if c.isDigit || isSpecialParam c then do
        advance 1
        return some (.param (String.ofList [c]) .value [] [] quoted)
      else if isNameStart c then do
        let name := c :: rest.takeWhile isNameChar
        advance name.length
        return some (.param (String.ofList name) .value [] [] quoted)
      else return none
    | [] => return none

/-- Reads a `${…}` expansion after its opening brace, closing brace included. -/
def readBraced (quoted : Bool) : Nat → Scan Part
  | 0 => throw (.brace 0 0)
  | n + 1 => do
    let l ← get
    let closeWith (name : String) (op : ParamOp) (word extra : Word) : Scan Part := do
      match (← get).rest with
      | '\x7d' :: _ => do advance 1; return .param name op word extra quoted
      | _ => throw (.brace (← get).line 0)
    -- `${#}`, `${#name}`
    match l.rest with
    | '#' :: '\x7d' :: _ => do advance 2; return .param "#" .value [] [] quoted
    | '#' :: c :: rest =>
      if isNameStart c then do
        let name := c :: rest.takeWhile isNameChar
        advance (1 + name.length)
        closeWith (String.ofList name) .length [] []
      else if c.isDigit then do
        let ds := c :: rest.takeWhile Char.isDigit
        advance (1 + ds.length)
        closeWith (String.ofList ds) .length [] []
      else if isSpecialParam c then do
        advance 2
        closeWith (String.ofList [c]) .length [] []
      else readOperator quoted n "#"
    | '!' :: c :: rest =>
      if l.bash && isNameStart c then do
        let name := c :: rest.takeWhile isNameChar
        advance (1 + name.length)
        closeWith (String.ofList name) .indirect [] []
      else do
        advance 1
        readOperator quoted n "!"
    | c :: rest =>
      if isNameStart c then do
        let name := c :: rest.takeWhile isNameChar
        advance name.length
        readOperator quoted n (String.ofList name)
      else if c.isDigit then do
        let ds := c :: rest.takeWhile Char.isDigit
        advance ds.length
        readOperator quoted n (String.ofList ds)
      else if isSpecialParam c then do
        advance 1
        readOperator quoted n (String.ofList [c])
      else readOperator quoted n ""
    | [] => throw (.brace l.line 0)

/-- Reads the operator and words of a `${name…}` expansion after its name, closing
brace included. An operator the shell does not know, or no name, is a bad
substitution, found when the expansion is carried out. -/
def readOperator (quoted : Bool) : Nat → String → Scan Part
  | 0, _ => throw (.brace 0 0)
  | n + 1, name => do
    let l ← get
    let word (stops : List Char) : Scan Word := readParts (.braced quoted stops) n []
    let finish (op : ParamOp) (w extra : Word) : Scan Part := do
      match (← get).rest with
      | '\x7d' :: _ => do advance 1; return .param name op w extra quoted
      | _ => throw (.brace (← get).line 0)
    if name.isEmpty then invalid n
    else
      match l.rest with
      | '\x7d' :: _ => do advance 1; return .param name .value [] [] quoted
      | ':' :: c :: _ =>
        if c = '-' || c = '=' || c = '?' || c = '+' then do
          advance 2
          let w ← word []
          finish (opOf c true) w []
        else if l.bash then do
          advance 1
          let off ← word [':']
          match (← get).rest with
          | ':' :: _ => do
            advance 1
            let len ← word []
            finish (.slice true) off len
          | _ => finish (.slice false) off []
        else invalid n
      | c :: rest =>
        if c = '-' || c = '=' || c = '?' || c = '+' then do
          advance 1
          let w ← word []
          finish (opOf c false) w []
        else if c = '%' || c = '#' then do
          let longest := rest.head? = some c
          advance (if longest then 2 else 1)
          -- a pattern is read as outside double quotes: its quotes quote
          let w ← readParts (.braced false []) n []
          finish (if c = '%' then .dropSuffix longest else .dropPrefix longest) w []
        else if l.bash && c = '/' then do
          let (all, anchor, k) : Bool × Option Bool × Nat := match rest with
            | '/' :: _ => (true, none, 2)
            | '#' :: _ => (false, some true, 2)
            | '%' :: _ => (false, some false, 2)
            | _ => (false, none, 1)
          advance k
          let pat ← word ['/']
          match (← get).rest with
          | '/' :: _ => do
            advance 1
            let repl ← word []
            finish (.replace all anchor) pat repl
          | _ => finish (.replace all anchor) pat []
        else if l.bash && (c = '^' || c = ',') then do
          let all := rest.head? = some c
          advance (if all then 2 else 1)
          finish (.caseMap (c = '^') all) [] []
        else invalid n
      | [] => throw (.brace l.line 0)
where
  /-- The operator of a character after the name. -/
  opOf (c : Char) (colon : Bool) : ParamOp :=
    if c = '-' then .ifUnset colon
    else if c = '=' then .assignIfUnset colon
    else if c = '?' then .failIfUnset colon
    else .ifSet colon
  /-- Skips to the closing brace of a bad substitution. -/
  invalid (n : Nat) : Scan Part := do
    let _ ← readParts (.braced quoted []) n []
    match (← get).rest with
    | '\x7d' :: _ => do advance 1; return .param "" .invalid [] [] quoted
    | _ => throw (.brace (← get).line 0)

end

/-- A token of a script. -/
inductive Token where
  /-- A word: its parts and the text it was written as. -/
  | word (parts : Word) (raw : String)
  /-- Digits that name the descriptor of the redirection after them. -/
  | ioNumber (fd : Nat)
  /-- An operator or a redirection. -/
  | op (s : String)
  | newline
  | eof
  deriving Inhabited

/-- The reserved words. -/
def reservedWords : List String :=
  ["!", "\x7b", "\x7d", "case", "do", "done", "elif", "else", "esac", "fi", "for", "if", "in",
    "then", "until", "while"]

/-- Whether a token is the reserved word `w`: that word, unquoted. -/
def Token.isWord (t : Token) (w : String) : Bool :=
  match t with
  | .word [.lit s] raw => s == w && raw == w
  | _ => false

/-- Whether a token is a reserved word. -/
def Token.isReserved (t : Token) (bash : Bool) : Bool :=
  reservedWords.any t.isWord || (bash && (t.isWord "[[" || t.isWord "function"))

/-- The redirection operators, longer ones first. -/
def redirectionOps (bash : Bool) : List String :=
  (if bash then ["&>>", "&>", "<<<"] else []) ++
    ["<<-", "<<", "<&", "<>", "<", ">>", ">&", ">|", ">"]

/-- The other operators, longer ones first. -/
def controlOps : List String := ["&&", "||", ";;", ";", "&", "|", "(", ")"]

/-- Whether an operator is a redirection. -/
def isRedirection (s : String) : Bool := (redirectionOps true).contains s

/-- How a complaint names a token. -/
def Token.name (t : Token) (bash : Bool) : TokenName :=
  match t with
  | .eof => .endOfFile
  | .newline => .newline
  | .ioNumber fd => .word (toString fd)
  | .op s => .symbol s (isRedirection s)
  | .word _ raw => if t.isReserved bash then .symbol raw false else .word raw

/-- Skips blanks, joined lines and a comment. -/
def skipBlanks : Nat → Scan Unit
  | 0 => return
  | n + 1 => do
    match (← get).rest with
    | ' ' :: _ => do advance 1; skipBlanks n
    | '\t' :: _ => do advance 1; skipBlanks n
    | '\\' :: '\n' :: _ => do advance 2; skipBlanks n
    | '#' :: more => advance (1 + (more.takeWhile (· ≠ '\n')).length)
    | _ => return

/-- Reads the next token. -/
def lex : Scan Token := do
  skipBlanks ((← get).rest.length + 1)
  let l ← get
  match l.rest with
  | [] => return .eof
  | '\n' :: _ => do advance 1; return .newline
  | cs@(c :: _) =>
    let ops := redirectionOps l.bash ++ controlOps
    match ops.find? fun o => o.toList.isPrefixOf cs with
    | some o => do advance o.length; return .op o
    | none =>
      let ds := cs.takeWhile Char.isDigit
      match cs.drop ds.length with
      | d :: _ =>
        if !ds.isEmpty && (d = '<' || d = '>') then do
          advance ds.length
          return .ioNumber (String.ofList ds).toNat!
        else readWordToken cs c
      | [] => readWordToken cs c
where
  /-- Reads a word token. -/
  readWordToken (cs : List Char) (_ : Char) : Scan Token := do
    let parts ← readParts .plain (cs.length + 1) []
    let after := (← get).rest
    return .word parts (String.ofList (cs.take (cs.length - after.length)))

/-- The next token, without moving past it, and the line the reader reaches with it. -/
def peek : Scan (Token × Nat) := do
  let l ← get
  match lex.run l with
  | .ok (t, l') => return (t, l'.line)
  | .error e => throw e

/-- Moves past the next token. -/
def consume : Scan Token := lex

/-- A complaint about the token `t`, read up to `line`. -/
def unexpected (t : Token) (line : Nat) (expecting : Option String) : Scan α := do
  throw (.unexpected line (t.name (← get).bash) expecting)

/-- The line a simple command that started on line `first` is counted on: that line in
the POSIX shell, and the line the command ends on in the larger shell. -/
def commandLine (first : Nat) : Scan Nat := do
  let l ← get
  return if l.bash then l.line else first

/-- Skips line breaks. -/
def skipNewlines : Nat → Scan Unit
  | 0 => return
  | n + 1 => do
    match (← peek).1 with
    | .newline => do let _ ← consume; skipNewlines n
    | _ => return

/-- Reads the reserved word `w`, which must be next. -/
def expectWord (w : String) : Scan Unit := do
  let (t, line) ← peek
  if t.isWord w then do let _ ← consume; return
  else unexpected t line (some ("\"" ++ w ++ "\""))

/-- Reads the operator `o`, which must be next. -/
def expectOp (o : String) : Scan Unit := do
  let (t, line) ← peek
  match t with
  | .op s => if s == o then do let _ ← consume; return else unexpected t line (some ("\"" ++ o ++ "\""))
  | _ => unexpected t line (some ("\"" ++ o ++ "\""))

/-- The text of a here-document's delimiter word: the word with its quotes removed. -/
def delimiterText : Word → String
  | [] => ""
  | .lit s :: rest => s ++ delimiterText rest
  | .quoted s :: rest => s ++ delimiterText rest
  | .param name _ _ _ _ :: rest => "$" ++ name ++ delimiterText rest
  | .command t _ _ :: rest => "`" ++ t ++ "`" ++ delimiterText rest
  | .arith _ _ :: rest => "$((" ++ "))" ++ delimiterText rest

/-- The lines of a here-document from the line after its operator: the text up to the
delimiter line, and the number of lines it spans with that line. With `strip`,
leading tabs are dropped from each line first. Without a delimiter line the text runs
to the end. -/
def docLines (delim : String) (strip : Bool) : List String → String × Nat
  | [] => ("", 0)
  | [last] =>
    let line := if strip then String.ofList (last.toList.dropWhile (· = '\t')) else last
    if line == delim then ("", 1) else (if line.isEmpty then ("", 0) else (line, 1))
  | l :: more =>
    let line := if strip then String.ofList (l.toList.dropWhile (· = '\t')) else l
    if line == delim then ("", 1)
    else
      let (text, k) := docLines delim strip more
      (line ++ "\n" ++ text, k + 1)

/-- Takes a here-document's text out of the text still to read: the text after the end
of the current line, up to the delimiter line. The lines taken are counted at the end
of the current line. -/
def takeDoc (delim : String) (strip : Bool) : Scan String := do
  let l ← get
  let lineEnd := (l.rest.takeWhile (· ≠ '\n')).length
  if lineEnd ≥ l.rest.length then return ""
  else
    let after := l.rest.drop (lineEnd + 1)
    let lines := (String.ofList after).splitOn "\n"
    let (text, k) := docLines delim strip lines
    let consumed := (lines.take k).foldl (fun acc ln => acc + ln.length + 1) 0
    set { l with rest := l.rest.take (lineEnd + 1) ++ after.drop consumed,
                 pending := l.pending + k }
    return text

/-- Reads a redirection after its descriptor, if written. -/
def readRedirect (fd : Option Nat) : Scan Redirect := do
  let (t, line) ← peek
  match t with
  | .op o =>
    let _ ← consume
    let (target, tl) ← peek
    match target with
    | .word parts raw =>
      let _ ← consume
      if o == "<<" || o == "<<-" then do
        let delim := delimiterText parts
        let expand := !(raw.any fun c => c = '\'' || c = '"' || c = '\\')
        let doc ← takeDoc delim (o == "<<-")
        return { fd, op := .heredoc, target := parts, doc, expandDoc := expand }
      else
        let op : RedirectOp :=
          if o == "<" then .read else if o == ">>" then .append
          else if o == "<&" then .dupRead else if o == ">&" then .dupWrite
          else if o == "<>" then .readWrite else if o == "<<<" then .herestring
          else if o == "&>" then .writeBoth false else if o == "&>>" then .writeBoth true
          else .write
        return { fd, op, target := parts }
    | _ => unexpected target tl none
  | _ => unexpected t line none

/-- Whether a word assigns a variable: `NAME=value`, the name unquoted. Gives the name
and the parts of the value. -/
def assignmentOf? (parts : Word) : Option (String × Word) :=
  match parts with
  | .lit s :: rest =>
    let name := s.toList.takeWhile (· ≠ '=')
    if name.length < s.length && isName (String.ofList name) then
      let value := String.ofList (s.toList.drop (name.length + 1))
      some (String.ofList name, (if value.isEmpty then [] else [.lit value]) ++ rest)
    else none
  | _ => none

/-- The words that end a list of commands. -/
def closingWords : List String := ["then", "else", "elif", "fi", "do", "done", "esac", "\x7d"]

mutual

/-- A list of commands separated by `;`, `&` or line breaks, up to a closing reserved
word, `)`, `;;` or the end. An empty list is an error unless `allowEmpty`. -/
def readList (allowEmpty : Bool) : Nat → Scan Command
  | 0 => return .empty
  | n + 1 => do
    let items ← listItems n []
    if items.isEmpty && !allowEmpty then do
      let (t, line) ← peek
      -- the POSIX shell leaves the end of the text to the word expected after the list
      match t with
      | .eof => if (← get).bash then unexpected t line none else return .sequence []
      | _ => unexpected t line none
    else return .sequence items

/-- The commands of a list after those in `acc`. -/
def listItems : Nat → List Command → Scan (List Command)
  | 0, acc => return acc
  | n + 1, acc => do
    skipNewlines ((← get).rest.length + 1)
    let (t, _) ← peek
    let bash := (← get).bash
    let ends := match t with
      | .eof => true
      | .op s => s == ")" || s == ";;"
      | _ => closingWords.any t.isWord
    if ends then return acc
    else do
      let c ← readAndOr n
      let (t, _) ← peek
      match t with
      | .op ";" | .op "&" => do
        let _ ← consume
        listItems n (acc ++ [c])
      | .newline => listItems n (acc ++ [c])
      | _ => let _ := bash; return acc ++ [c]

/-- Pipelines joined by `&&` and `||`. -/
def readAndOr : Nat → Scan Command
  | 0 => return .empty
  | n + 1 => do
    let first ← readPipeline n
    let rest ← andOrRest n []
    return if rest.isEmpty then first else .andOr first rest

/-- The pipelines after `&&` and `||`. -/
def andOrRest : Nat → List (Bool × Command) → Scan (List (Bool × Command))
  | 0, acc => return acc
  | n + 1, acc => do
    match (← peek).1 with
    | .op "&&" => do
      let _ ← consume
      skipNewlines ((← get).rest.length + 1)
      let p ← readPipeline n
      andOrRest n (acc ++ [(true, p)])
    | .op "||" => do
      let _ ← consume
      skipNewlines ((← get).rest.length + 1)
      let p ← readPipeline n
      andOrRest n (acc ++ [(false, p)])
    | _ => return acc

/-- Commands joined by `|`, after an optional `!`. -/
def readPipeline : Nat → Scan Command
  | 0 => return .empty
  | n + 1 => do
    let (t, _) ← peek
    let negate := t.isWord "!"
    if negate then do let _ ← consume
    let first ← readCommand n
    let rest ← pipeRest n []
    return if rest.isEmpty && !negate then first else .pipeline negate (first :: rest)

/-- The commands after each `|`. -/
def pipeRest : Nat → List Command → Scan (List Command)
  | 0, acc => return acc
  | n + 1, acc => do
    match (← peek).1 with
    | .op "|" => do
      let _ ← consume
      skipNewlines ((← get).rest.length + 1)
      let c ← readCommand n
      pipeRest n (acc ++ [c])
    | _ => return acc

/-- One command: compound, a function definition or simple. -/
def readCommand : Nat → Scan Command
  | 0 => return .empty
  | n + 1 => do
    let (t, line) ← peek
    let bash := (← get).bash
    if t.isWord "\x7b" then do
      let _ ← consume
      let body ← readList false n
      expectWord "\x7d"
      let rs ← readRedirects n []
      return .group body rs
    else if t.isWord "if" then do
      let _ ← consume
      readIf n
    else if t.isWord "while" || t.isWord "until" then do
      let _ ← consume
      let cond ← readList false n
      expectWord "do"
      let body ← readList false n
      expectWord "done"
      let rs ← readRedirects n []
      return .loop (t.isWord "until") cond body rs
    else if t.isWord "for" then do
      let _ ← consume
      readFor n
    else if t.isWord "case" then do
      let _ ← consume
      readCase n
    else if bash && t.isWord "[[" then do
      let _ ← consume
      let c ← readCondOr n
      let (t', l') ← peek
      if t'.isWord "]]" then do let _ ← consume; return .test line c
      else unexpected t' l' none
    else if bash && t.isWord "function" then do
      let _ ← consume
      let (nt, nl) ← peek
      match nt with
      | .word _ raw => do
        let _ ← consume
        match (← peek).1 with
        | .op "(" => do let _ ← consume; expectOp ")"
        | _ => pure ()
        skipNewlines ((← get).rest.length + 1)
        let body ← readCommand n
        return .function raw body
      | _ => unexpected nt nl none
    else if t.isReserved bash then unexpected t line none
    else
      match t with
      | .op "(" => do
        let _ ← consume
        let body ← readList false n
        expectOp ")"
        let rs ← readRedirects n []
        return .subshell body rs
      | .word _ raw => do
        -- a function definition: `name ( )`
        let saved ← get
        let _ ← consume
        match (← peek).1 with
        | .op "(" => do
          let _ ← consume
          expectOp ")"
          skipNewlines ((← get).rest.length + 1)
          -- the larger shell takes only a compound command as a function's body
          let (bt, bl) ← peek
          let compound := ["\x7b", "if", "while", "until", "for", "case", "[["].any bt.isWord ||
            (match bt with | .op "(" => true | _ => false)
          if bash && !compound then unexpected bt bl none
          let body ← readCommand n
          return .function raw body
        | _ => do
          set saved
          readSimple n line [] [] []
      | .ioNumber _ | .op _ => readSimple n line [] [] []
      | _ => unexpected t line none

/-- The rest of an `if` command after `if` (or `elif`). -/
def readIf : Nat → Scan Command
  | 0 => return .empty
  | n + 1 => do
    let cond ← readList false n
    expectWord "then"
    let thenPart ← readList false n
    let (t, line) ← peek
    if t.isWord "elif" then do
      let _ ← consume
      let inner ← readIf n
      return .ifThen cond thenPart (some inner) []
    else if t.isWord "else" then do
      let _ ← consume
      let elsePart ← readList false n
      expectWord "fi"
      let rs ← readRedirects n []
      return .ifThen cond thenPart (some elsePart) rs
    else if t.isWord "fi" then do
      let _ ← consume
      let rs ← readRedirects n []
      return .ifThen cond thenPart none rs
    else unexpected t line (some "\"fi\"")

/-- The rest of a `for` loop after `for`. -/
def readFor : Nat → Scan Command
  | 0 => return .empty
  | n + 1 => do
    let (t, line) ← peek
    match t with
    | .word _ raw =>
      if !isName raw then throw (.forVariable line)
      else if !(← get).bash && raw.any (fun c => c = '\'' || c = '"' || c = '\\') then throw (.forVariable line)
      else do
        let _ ← consume
        skipNewlines ((← get).rest.length + 1)
        let (t, _) ← peek
        let items ← if t.isWord "in" then do
            let _ ← consume
            let ws ← forWords n []
            pure (some ws)
          else do
            match t with
            | .op ";" => do let _ ← consume; pure none
            | _ => pure none
        skipNewlines ((← get).rest.length + 1)
        expectWord "do"
        let body ← readList false n
        expectWord "done"
        let rs ← readRedirects n []
        return .forIn raw items body rs
    | _ => if (← get).bash then unexpected t line none else throw (.forVariable line)

/-- The words of a `for` loop after `in`, up to `;` or a line break. -/
def forWords : Nat → List Word → Scan (List Word)
  | 0, acc => return acc
  | n + 1, acc => do
    let (t, line) ← peek
    match t with
    | .word parts _ => do let _ ← consume; forWords n (acc ++ [parts])
    | .op ";" => do let _ ← consume; return acc
    | .newline => do let _ ← consume; return acc
    | _ => unexpected t line (if (← get).bash then some "\"do\"" else none)

/-- The rest of a `case` command after `case`. -/
def readCase : Nat → Scan Command
  | 0 => return .empty
  | n + 1 => do
    let (t, line) ← peek
    match t with
    | .word subject _ => do
      let _ ← consume
      skipNewlines ((← get).rest.length + 1)
      expectWord "in"
      let arms ← caseArms n []
      let rs ← readRedirects n []
      return .caseOf subject arms rs
    | _ => unexpected t line (some "word")

/-- The arms of a `case` command up to and with `esac`. -/
def caseArms : Nat → List (List Word × Command) → Scan (List (List Word × Command))
  | 0, acc => return acc
  | n + 1, acc => do
    skipNewlines ((← get).rest.length + 1)
    let (t, _) ← peek
    if t.isWord "esac" then do let _ ← consume; return acc
    else do
      match t with
      | .op "(" => do let _ ← consume
      | _ => pure ()
      let pats ← casePatterns n []
      expectOp ")"
      let body ← readList true n
      let (t, line) ← peek
      match t with
      | .op ";;" => do let _ ← consume; caseArms n (acc ++ [(pats, body)])
      | _ =>
        if t.isWord "esac" then do let _ ← consume; return acc ++ [(pats, body)]
        else unexpected t line (some (if (← get).bash then "\"esac\"" else "\";;\""))

/-- The patterns of a `case` arm, separated by `|`. -/
def casePatterns : Nat → List Word → Scan (List Word)
  | 0, acc => return acc
  | n + 1, acc => do
    let (t, line) ← peek
    match t with
    | .word parts _ => do
      let _ ← consume
      match (← peek).1 with
      | .op "|" => do let _ ← consume; casePatterns n (acc ++ [parts])
      | _ => return acc ++ [parts]
    | .eof => if (← get).bash then unexpected t line (some "word") else return acc
    | _ => unexpected t line (some "word")

/-- The redirections after a compound command. -/
def readRedirects : Nat → List Redirect → Scan (List Redirect)
  | 0, acc => return acc
  | n + 1, acc => do
    match (← peek).1 with
    | .ioNumber fd => do
      let _ ← consume
      let r ← readRedirect (some fd)
      readRedirects n (acc ++ [r])
    | .op o =>
      if isRedirection o then do
        let r ← readRedirect none
        readRedirects n (acc ++ [r])
      else return acc
    | _ => return acc

/-- A simple command on `line`: assignments, words and redirections. -/
def readSimple : Nat → Nat → List (String × Word) → List Word → List Redirect → Scan Command
  | 0, line, a, w, r => return .simple line a w r
  | n + 1, line, assigns, words, redirects => do
    let (t, tl) ← peek
    match t with
    | .word parts _ =>
      match assignmentOf? parts with
      | some (name, value) =>
        if words.isEmpty then do
          let _ ← consume
          readSimple n line (assigns ++ [(name, value)]) words redirects
        else do
          let _ ← consume
          readSimple n line assigns (words ++ [parts]) redirects
      | none => do
        let _ ← consume
        readSimple n line assigns (words ++ [parts]) redirects
    | .ioNumber fd => do
      let _ ← consume
      let r ← readRedirect (some fd)
      readSimple n line assigns words (redirects ++ [r])
    | .op o =>
      if isRedirection o then do
        let r ← readRedirect none
        readSimple n line assigns words (redirects ++ [r])
      else if assigns.isEmpty && words.isEmpty && redirects.isEmpty then unexpected t tl none
      else return .simple (← commandLine line) assigns words redirects
    | _ =>
      if assigns.isEmpty && words.isEmpty && redirects.isEmpty then unexpected t tl none
      else return .simple (← commandLine line) assigns words redirects

/-- Conditions of `[[ … ]]` joined by `||`. -/
def readCondOr : Nat → Scan Condition
  | 0 => return .word []
  | n + 1 => do
    let a ← readCondAnd n
    match (← peek).1 with
    | .op "||" => do
      let _ ← consume
      let b ← readCondOr n
      return .or a b
    | _ => return a

/-- Conditions of `[[ … ]]` joined by `&&`. -/
def readCondAnd : Nat → Scan Condition
  | 0 => return .word []
  | n + 1 => do
    let a ← readCondNot n
    match (← peek).1 with
    | .op "&&" => do
      let _ ← consume
      let b ← readCondAnd n
      return .and a b
    | _ => return a

/-- A condition of `[[ … ]]`, after any number of `!`. -/
def readCondNot : Nat → Scan Condition
  | 0 => return .word []
  | n + 1 => do
    let (t, line) ← peek
    if t.isWord "!" then do
      let _ ← consume
      return .not (← readCondNot n)
    else
      match t with
      | .op "(" => do
        let _ ← consume
        let c ← readCondOr n
        expectOp ")"
        return c
      | .word parts raw => do
        let _ ← consume
        let unary := ["-n", "-z", "-e", "-f", "-d", "-s", "-r", "-w", "-x", "-L", "-h", "-a"]
        let (t2, _) ← peek
        if unary.contains raw && (match t2 with | .word _ r => r != "]]" | _ => false) then
          match t2 with
          | .word p2 _ => do let _ ← consume; return .unary raw p2
          | _ => return .word parts
        else
          match t2 with
          | .word _ op =>
            if ["==", "=", "!=", "=~", "-eq", "-ne", "-lt", "-le", "-gt", "-ge", "-nt", "-ot"].contains op then do
              let _ ← consume
              match (← peek) with
              | (.word p3 _, _) => do let _ ← consume; return .binary op parts p3
              | (t3, l3) => unexpected t3 l3 none
            else return .word parts
          | .op o =>
            if o == "<" || o == ">" then do
              let _ ← consume
              match (← peek) with
              | (.word p3 _, _) => do let _ ← consume; return .binary o parts p3
              | (t3, l3) => unexpected t3 l3 none
            else return .word parts
          | _ => return .word parts
      | _ => unexpected t line none

end

/-- The fuel for reading a script of `n` characters. -/
def readFuel (n : Nat) : Nat := 4 * n + 16

/-- Reads the next command line: the commands up to a line break or the end, or nothing
at the end of the script. -/
def nextLine : Scan (Option Command) := do
  let fuel := readFuel (← get).rest.length
  skipNewlines fuel
  let (t, _) ← peek
  match t with
  | .eof => return none
  | _ =>
    let items ← lineItems fuel []
    let (t, line) ← peek
    match t with
    | .newline => do let _ ← consume; return some (.sequence items)
    | .eof => return some (.sequence items)
    | _ => unexpected t line none
where
  /-- The and-or lists of a line after those in `acc`. -/
  lineItems : Nat → List Command → Scan (List Command)
    | 0, acc => return acc
    | n + 1, acc => do
      let c ← readAndOr n
      match (← peek).1 with
      | .op ";" | .op "&" => do
        let _ ← consume
        match (← peek).1 with
        | .newline | .eof => return acc ++ [c]
        | _ => lineItems n (acc ++ [c])
      | _ => return acc ++ [c]

/-- The parts of a here-document's text, expansions and escapes read as in double
quotes. -/
def readDocText (text : String) (bash : Bool) : Except SyntaxError Word :=
  ((readParts .doc (text.length + 1) []).run { rest := text.toList, bash }).map (·.1)

end IacLint.Shell
