import IacLint.Host.Process
import IacLint.Tools.Options
import IacLint.Tools.Sed.Script

/-!
# Running the stream editor

The editor reads its input a line at a time into the *pattern space*, runs the script
on it, and writes the pattern space at the end of the cycle unless told not to (`-n`).
Its input is the files named, one stream after another (each apart with `-s` or `-i`),
or its standard input; `$` is the last line of that stream.

A range of two addresses starts on a line its first address selects and runs to the
line its second selects, which is looked for from the next line on (from the first
line for `0,/RE/`); a line number at or before the start ends it at once. The
state of every range is kept with its command.

Output goes out as the editor writes it: a line it read without a line feed is written
without one, and the line feed is supplied when more output follows. Text queued with
`a`, `r` and `R` is written when the next line is read or the run ends. Its own
complaints are written at once, and its output, which it buffers, when it ends.

Text is handled a byte at a time, as characters below 256, as in the C locale.

## Main definitions

* `Machine` — the state of a run
* `Machine.run` — runs a script over the input
* `runSed` — the utility
-/

namespace IacLint.Tools.Sed

open IacLint.Host IacLint.Files IacLint.Text IacLint.Tools

/-- The characters of some bytes, one per byte. -/
def charsOfBytes (bs : List UInt8) : List Char := bs.map fun b => Char.ofNat b.toNat

/-- The bytes of characters that each stand for a byte. -/
def bytesOfChars (cs : List Char) : List UInt8 := cs.map fun c => c.toNat.toUInt8

/-- The text of characters that stand for the bytes of a UTF-8 text. -/
def textOfChars (cs : List Char) : String := decodeLossy (bytesOfChars cs)

/-- A line of input: its characters and whether the delimiter ended it. -/
structure InputLine where
  chars : List Char
  ended : Bool

/-- The lines of some characters cut at a delimiter. -/
def splitAt (delim : Char) (cs : List Char) : List InputLine :=
  let rec go : Nat → List Char → List InputLine
    | 0, _ => []
    | _ + 1, [] => []
    | fuel + 1, cs =>
      let line := cs.takeWhile (· ≠ delim)
      if line.length < cs.length then { chars := line, ended := true } :: go fuel (cs.drop (line.length + 1))
      else [{ chars := line, ended := false }]
  go (cs.length + 1) cs

/-- The state of a range: outside it, or inside it, with the line that ends it when
that is a number. -/
inductive RangeState where
  | idle
  | active (limit : Option Nat)
  deriving Inhabited

/-- Text waiting to be written after the cycle. -/
inductive Queued where
  /-- Text of `a`, or a line `R` read. -/
  | text (cs : List Char)
  /-- The contents of a file, for `r`. -/
  | file (path : String)

/-- Where a run is. -/
inductive Phase where
  /-- A cycle is to start with the next line. -/
  | fresh
  /-- The command at this place is next. -/
  | running (pc : Nat)
  /-- The script ended; the pattern space is written unless `-n`. -/
  | endCycle
  /-- `D` left lines: the script runs again on them without reading. -/
  | restart
  | finished
  deriving Inhabited

/-- How the editor was started. -/
structure Settings where
  quiet : Bool := false
  separate : Bool := false
  /-- Editing files in place, with the suffix of the backups. -/
  inPlace : Option String := none
  delimiter : Char := '\n'
  lineWrap : Nat := 70
  /-- The number of expressions given, which runtime complaints name. -/
  expressions : Nat := 1

/-- The state of a run of the editor. -/
structure Machine where
  phase : Phase := .fresh
  pattern : List Char := []
  ended : Bool := true
  hold : List Char := []
  lineNumber : Nat := 0
  /-- The lines left of the file being read. -/
  current : List InputLine := []
  fileName : String := "-"
  /-- The files not opened yet. -/
  pending : List String
  /-- The file being edited in place, with its bytes as they were. -/
  editing : Option (String × List UInt8) := none
  queue : List Queued := []
  replaced : Bool := false
  ranges : Array RangeState
  lastPattern : Option Pattern := none
  /-- What is written to the standard output. -/
  stdout : Array Char := #[]
  /-- What is written to the file edited in place. -/
  edited : Array Char := #[]
  missingNewline : Bool := false
  stderr : Array Char := #[]
  /-- Whether a file could not be read. -/
  badInput : Bool := false
  /-- The status a `q` or `Q` asked for. -/
  exitCode : Option Nat := none
  /-- The status a failure ended the run with. -/
  failure : Option Nat := none
  /-- The lines left of the files `R` reads. -/
  readers : List (String × List InputLine) := []
  /-- What was written to the files `w` writes. -/
  written : List (String × Array Char) := []
  tree : Tree
  /-- The working directory, which relative paths start from. -/
  cwd : String := ""
  input : Input
  stdinRead : Bool := false
  /-- Commands left before the run is taken to never end. -/
  budget : Nat := 1000000
  endless : Bool := false
  /-- The name the editor was started by, which its complaints begin with. -/
  name : String := "sed"

namespace Machine

/-- Writes to the standard error. -/
def complain (m : Machine) (message : String) : Machine :=
  { m with stderr := m.stderr ++ (charsOfBytes (encode (m.name ++ ": " ++ message ++ "\n"))).toArray }

/-- Ends the run with a complaint and a status. -/
def fatal (m : Machine) (message : String) (status : Nat) : Machine :=
  { m.complain message with failure := some status, phase := .finished, queue := [] }

/-- Whether the run has finished. -/
def isFinished (m : Machine) : Bool :=
  match m.phase with
  | .finished => true
  | _ => false

/-- The path in the tree of a path the editor is given. -/
def resolve (m : Machine) (p : String) : String :=
  if p.startsWith "/" || m.cwd.isEmpty then p else m.cwd ++ "/" ++ p

/-- Writes characters to the output (the file edited in place, or the standard output). -/
def put (m : Machine) (cs : List Char) : Machine :=
  if m.editing.isSome then { m with edited := m.edited ++ cs.toArray }
  else { m with stdout := m.stdout ++ cs.toArray }

/-- Writes text to the output, after the line feed a line written without one owes. -/
def emit (s : Settings) (m : Machine) (cs : List Char) : Machine :=
  let m := if m.missingNewline then { m.put [s.delimiter] with missingNewline := false } else m
  m.put cs

/-- Writes a line of text to the output: its delimiter follows when `ended`, and is
owed otherwise. -/
def emitLine (s : Settings) (m : Machine) (cs : List Char) (ended : Bool) : Machine :=
  let m := m.emit s cs
  if ended then m.put [s.delimiter] else { m with missingNewline := true }

/-- Writes a line to a file named by a `w` command; `/dev/stdout` and `/dev/stderr`
are the standard streams. -/
def writeTo (s : Settings) (m : Machine) (path : String) (cs : List Char) (ended : Bool) : Machine :=
  let line := if ended then cs ++ [s.delimiter] else cs
  if path == "/dev/stdout" then { m with stdout := m.stdout ++ line.toArray }
  else if path == "/dev/stderr" then { m with stderr := m.stderr ++ line.toArray }
  else
    let full := m.resolve path
    { m with written := m.written.map fun (p, acc) => if p == full then (p, acc ++ line.toArray) else (p, acc) }

/-- The bytes of a file of the tree, or why it cannot be read. -/
def readFile (m : Machine) (path : String) : Except Errno (List UInt8) :=
  match m.tree.statPath (m.resolve path) with
  | .ok (_, .file bs _) => .ok bs
  | .ok _ => .error .isDir
  | .error e => .error e

/-- The lines of an input file, or why it cannot be read: `-` is the standard input. -/
def inputLines (s : Settings) (m : Machine) (name : String) : Machine × Except Errno (List InputLine) :=
  if name == "-" then ({ m with stdinRead := true }, .ok (splitAt s.delimiter (charsOfBytes m.input.bytes)))
  else (m, (m.readFile name).map fun bs => splitAt s.delimiter (charsOfBytes bs))

/-- Whether any line is left in the files not opened yet. -/
def moreInPending (s : Settings) (m : Machine) : Bool :=
  m.pending.any fun name =>
    match (m.inputLines s name).2 with
    | .ok ls => !ls.isEmpty
    | .error _ => false

/-- Whether the line in the pattern space is the last: of its file with `-s` or
`-i`, of all the input otherwise. -/
def isLast (s : Settings) (m : Machine) : Bool :=
  m.current.isEmpty && (s.separate || !m.moreInPending s)

/-- Finishes the file edited in place: its new contents are written, and its old ones
saved under the backup name the suffix gives, if any: the suffix after the name, or
with each `*` standing for the file's own name. -/
def finishEditing (s : Settings) (m : Machine) : Machine :=
  match m.editing with
  | none => m
  | some (given, old) =>
    let path := m.resolve given
    let tree := match m.tree.writeBytes path (bytesOfChars m.edited.toList) with
      | .ok t => t
      | .error _ => m.tree
    let m := { m with tree, editing := none, edited := #[], missingNewline := false }
    match s.inPlace with
    | some suffix =>
      if suffix.isEmpty then m
      else
        let dir := (path.toList.reverse.dropWhile (· ≠ '/')).reverse
        let base := (path.toList.reverse.takeWhile (· ≠ '/')).reverse
        let name :=
          if suffix.toList.contains '*' then
            String.ofList (dir ++ suffix.toList.flatMap fun c => if c = '*' then base else [c])
          else path ++ suffix
        match m.tree.writeBytes name old with
        | .ok t => { m with tree := t }
        | .error _ => m
    | none => m

/-- Opens input files until one has lines, reporting those that cannot be read; the
run has no lines to read afterwards only when no file is left (or it has finished). -/
def openNext (s : Settings) : Nat → Machine → Machine
  | 0, m => m
  | fuel + 1, m =>
    match m.pending with
    | [] => m
    | name :: rest =>
      let m := { m with pending := rest }
      if s.inPlace.isSome then
        if name == "-" then m.fatal "couldn't edit -: not a regular file" 4
        else
          match m.tree.statPath (m.resolve name) with
          | .ok (_, .file bs _) =>
            let m := m.finishEditing s
            let lines := splitAt s.delimiter (charsOfBytes bs)
            let m := { m with editing := some (name, bs), fileName := name, current := lines,
                              lineNumber := 0 }
            if lines.isEmpty then openNext s fuel m else m
          | .ok _ => m.fatal ("couldn't edit " ++ name ++ ": not a regular file") 4
          | .error e => openNext s fuel { m.complain ("can't read " ++ name ++ ": " ++ e.text) with badInput := true }
      else
        match m.inputLines s name with
        | (m, .ok lines) =>
          let m := { m with fileName := name, current := lines,
                            lineNumber := if s.separate then 0 else m.lineNumber }
          if lines.isEmpty then openNext s fuel m else m
        | (m, .error .isDir) => m.fatal ("read error on " ++ name ++ ": Is a directory") 4
        | (m, .error e) =>
          openNext s fuel { m.complain ("can't read " ++ name ++ ": " ++ e.text) with badInput := true }

/-- Takes the next line of input: the run, and the line unless the input has ended (or
a file could not be read and the run has finished). -/
def takeLine (s : Settings) (m : Machine) : Machine × Option InputLine :=
  let m := if m.current.isEmpty then openNext s (m.pending.length + 1) m else m
  if m.isFinished then (m, none)
  else
    match m.current with
    | l :: rest => ({ m with current := rest, lineNumber := m.lineNumber + 1 }, some l)
    | [] => (m, none)

/-- Writes the queued text. -/
def dumpQueue (s : Settings) (m : Machine) : Machine :=
  let m := m.queue.foldl (fun (m : Machine) q =>
    if m.isFinished then m
    else
      match q with
      | .text cs => m.emit s cs
      | .file path =>
        if path == "/dev/stdin" || path == "-" then
          let m := { m with stdinRead := true }
          let m := m.emit s (charsOfBytes m.input.bytes)
          { m with input := {} }
        else
          match m.readFile path with
          | .ok bs => m.emit s (charsOfBytes bs)
          | .error .isDir => m.fatal ("read error on " ++ path ++ ": Is a directory") 4
          | .error _ => m) { m with queue := [] }
  m

/-- The next line of a file `R` reads, as the text to queue. -/
def readerLine (s : Settings) (m : Machine) (path : String) : Machine × Option (List Char) :=
  let (m, lines) := match m.readers.lookup path with
    | some ls => (m, ls)
    | none =>
      let ls := match m.readFile path with
        | .ok bs => splitAt s.delimiter (charsOfBytes bs)
        | .error _ => []
      ({ m with readers := (path, ls) :: m.readers }, ls)
  match lines with
  | [] => (m, none)
  | l :: rest =>
    ({ m with readers := m.readers.map fun (p, ls) => if p == path then (p, rest) else (p, ls) },
      some (if l.ended then l.chars ++ [s.delimiter] else l.chars))

/-- The pattern to match with: the one given, or the one used last; it becomes the one
used last. Nothing when none has been used. -/
def usePattern (s : Settings) (m : Machine) (p : Option Pattern) : Machine × Option Pattern :=
  match p with
  | some q => ({ m with lastPattern := some q }, some q)
  | none =>
    match m.lastPattern with
    | some q => (m, some q)
    | none =>
      (m.fatal ("-e expression #" ++ toString s.expressions ++ ", char 0: no previous regular expression") 1, none)

/-- Whether an address selects the line in the pattern space. -/
def matchAddress (s : Settings) (m : Machine) : Address → Machine × Bool
  | .line n => (m, m.lineNumber == n)
  | .every first step => (m, m.lineNumber ≥ first && (m.lineNumber - first) % step == 0)
  | .last => (m, m.isLast s)
  | .matching p =>
    match m.usePattern s p with
    | (m, some q) => (m, (q.regex.search m.pattern.toArray q.mode 0).isSome)
    | (m, none) => (m, false)

/-- Whether a command's addresses select the line in the pattern space, the state of
its range updated. -/
def selects (s : Settings) (m : Machine) (pc : Nat) (e : Entry) : Machine × Bool :=
  let (m, hit) : Machine × Bool :=
    match e.first with
    | none => (m, true)
    | some a1 =>
      match e.rangeEnd with
      | none => m.matchAddress s a1
      | some a2 =>
        let l := m.lineNumber
        let setRange (m : Machine) (r : RangeState) : Machine := { m with ranges := m.ranges.set! pc r }
        match m.ranges[pc]?.getD .idle with
        | .idle =>
          let (m, b) := m.matchAddress s a1
          if !b then (m, false)
          else
            match a2 with
            | .address (.line n) => if n ≤ l then (m, true) else (setRange m (.active (some n)), true)
            | .plus n => if n = 0 then (m, true) else (setRange m (.active (some (l + n))), true)
            | .multiple n => if n = 0 then (m, true) else (setRange m (.active (some ((l / n + 1) * n))), true)
            | .address _ => (setRange m (.active none), true)
        | .active (some n) =>
          if l ≥ n then (setRange m .idle, l ≤ n) else (m, true)
        | .active none =>
          match a2 with
          | .address a =>
            let (m, b) := m.matchAddress s a
            if b then (setRange m .idle, true) else (m, true)
          | _ => (setRange m .idle, true)
  (m, hit != e.negated)

/-- Changes the case of a character as a replacement asks. -/
def applyCase (c : Char) : Option CaseChange → Char
  | some .upper | some .upperNext => c.toUpper
  | some .lower | some .lowerNext => c.toLower
  | _ => c

/-- Adds characters to a replacement built so far (reversed), with its case mode and
the change waiting for the next character. -/
def addCased (acc : List Char) (mode next : Option CaseChange) (cs : List Char) :
    List Char × Option CaseChange :=
  cs.foldl (fun (acc, next) c =>
    match next with
    | some n => (applyCase c (some n) :: acc, none)
    | none => (applyCase c mode :: acc, none)) (acc, next)

/-- The replacement for a match: its pieces with the groups' text and case changes. -/
def expandReplacement (text : Array Char) (gs : Groups) (start stop : Nat) (pieces : List Piece) :
    List Char :=
  let groupChars (k : Nat) : List Char :=
    if k = 0 then (text.toList.drop start).take (stop - start)
    else match gs.find? (·.1 == k) with
      | some (_, s, e) => (text.toList.drop s).take (e - s)
      | none => []
  let (acc, _, _) := pieces.foldl (fun (acc, mode, next) p =>
    match p with
    | .text cs => let (acc, next) := addCased acc mode next cs; (acc, mode, next)
    | .group k => let (acc, next) := addCased acc mode next (groupChars k); (acc, mode, next)
    | .caseChange c =>
      match c with
      | .upper | .lower => (acc, some c, none)
      | .stop => (acc, none, none)
      | _ => (acc, mode, some c)) (([] : List Char), (none : Option CaseChange), (none : Option CaseChange))
  acc.reverse

/-- Replaces matches of a pattern in a text as `s` does: from the `occurrence`th match,
the next only or every one (`global`). An empty match right where the last match
ended is passed over. The new text, or nothing when no match was replaced. -/
def replaceMatches (p : Pattern) (sub : Substitution) (text : Array Char) : Option (List Char) :=
  let n := text.size
  let slice (a b : Nat) : List Char := (text.toList.drop a).take (b - a)
  let rec go : Nat → Nat → Option Nat → Nat → List Char → Bool → List Char × Bool
    | 0, start, _, _, acc, done => (acc ++ slice start n, done)
    | fuel + 1, start, prevEnd, count, acc, done =>
      if start > n then (acc, done)
      else
        match p.regex.search text p.mode start with
        | none => (acc ++ slice start n, done)
        | some (s, e, gs) =>
          if s == e && prevEnd == some s then
            if s ≥ n then (acc ++ slice start n, done)
            else go fuel (s + 1) prevEnd count (acc ++ slice start (s + 1)) done
          else
            let count := count + 1
            let acc := acc ++ slice start s
            let replace := count ≥ sub.occurrence
            let acc := if replace then acc ++ expandReplacement text gs s e sub.replacement else acc ++ slice s e
            let done := done || replace
            if replace && !sub.global then (acc ++ slice e n, done)
            else if s == e then
              if s ≥ n then (acc, done)
              else go fuel (s + 1) (some e) count (acc ++ slice s (s + 1)) done
            else go fuel e (some e) count acc done
  let (out, done) := go (n + 2) 0 none 0 [] false
  if done then some out else none

/-- A byte as `l` writes it. -/
def listChar (c : Char) : List Char :=
  let b := c.toNat
  if b = 92 then ['\\', '\\']
  else if 32 ≤ b && b ≤ 126 then [c]
  else
    match b with
    | 7 => ['\\', 'a'] | 8 => ['\\', 'b'] | 12 => ['\\', 'f'] | 10 => ['\\', 'n']
    | 13 => ['\\', 'r'] | 9 => ['\\', 't'] | 11 => ['\\', 'v']
    | _ =>
      let d (k : Nat) : Char := Char.ofNat ('0'.toNat + (b / k) % 8)
      ['\\', d 64, d 8, d 1]

/-- The pattern space as `l` writes it: each byte unambiguous, lines broken with a
backslash to fit the width (none when it is 0), and `$` at the end. -/
def listing (cs : List Char) (width : Nat) : List Char :=
  let (acc, _) := cs.foldl (fun (acc, w) c =>
    let piece := listChar c
    if width > 0 && w + piece.length > width - 1 then (acc ++ ['\\', '\n'] ++ piece, piece.length)
    else (acc ++ piece, w + piece.length)) (([] : List Char), 0)
  acc ++ ['$', '\n']

/-- The place of a label in the script. -/
def labelPlace (script : Script) (name : String) : Option Nat :=
  script.entries.toList.findIdx? fun e =>
    match e.command with
    | .label l => l == name
    | _ => false

/-- The first line of the pattern space and the rest after its delimiter, if it has
one. -/
def splitFirst (s : Settings) (cs : List Char) : Option (List Char × List Char) :=
  let first := cs.takeWhile (· ≠ s.delimiter)
  if first.length < cs.length then some (first, cs.drop (first.length + 1)) else none

/-- Runs a command the addresses selected; `pc` is its place. -/
def execute (script : Script) (s : Settings) (m : Machine) (pc : Nat) (e : Entry) : Machine :=
  let next := { m with phase := .running (pc + 1) }
  match e.command with
  | .blockStart _ | .blockEnd | .label _ | .skip => next
  | .branch kind target =>
    let (jump, m) : Bool × Machine := match kind with
      | .always => (true, m)
      | .replaced => if m.replaced then (true, { m with replaced := false }) else (false, m)
      | .notReplaced => if m.replaced then (false, { m with replaced := false }) else (true, m)
    if !jump then { m with phase := .running (pc + 1) }
    else if target.isEmpty then { m with phase := .endCycle }
    else
      match labelPlace script target with
      | some k => { m with phase := .running (k + 1) }
      | none => { m with phase := .endCycle }
  | .lineNumber => next.emit s (toString m.lineNumber ++ "\n").toList
  | .delete => { m with phase := .fresh }
  | .deleteFirst =>
    match splitFirst s m.pattern with
    | some (_, rest) => { m with pattern := rest, phase := .restart }
    | none => { m with phase := .fresh }
  | .fileName => next.emit s (charsOfBytes (encode (m.fileName ++ "\n")))
  | .get => { next with pattern := m.hold }
  | .getAppend => { next with pattern := m.pattern ++ s.delimiter :: m.hold }
  | .hold => { next with hold := m.pattern }
  | .holdAppend => { next with hold := m.hold ++ s.delimiter :: m.pattern }
  | .exchange => { next with pattern := m.hold, hold := m.pattern }
  | .zap => { next with pattern := [] }
  | .list w => next.emit s (listing m.pattern (w.getD s.lineWrap))
  | .print => next.emitLine s m.pattern m.ended
  | .printFirst =>
    match splitFirst s m.pattern with
    | some (first, _) => next.emitLine s first true
    | none => next.emitLine s m.pattern m.ended
  | .next =>
    if m.isLast s then { m with phase := .endCycle }
    else
      let m := if s.quiet then m else m.emitLine s m.pattern m.ended
      let m := m.dumpQueue s
      match m.takeLine s with
      | (m, some l) =>
        if m.isFinished then m
        else { m with pattern := l.chars, ended := l.ended, replaced := false, phase := .running (pc + 1) }
      | (m, none) => if m.isFinished then m else { m with phase := .endCycle }
  | .appendNext =>
    if m.isLast s then { m with phase := .endCycle }
    else
      let m := m.dumpQueue s
      match m.takeLine s with
      | (m, some l) =>
        if m.isFinished then m
        else
          { m with pattern := m.pattern ++ s.delimiter :: l.chars, ended := l.ended, replaced := false,
                   phase := .running (pc + 1) }
      | (m, none) => if m.isFinished then m else { m with phase := .endCycle }
  | .quit code silently =>
    if silently then { m with exitCode := some code, phase := .finished, queue := [] }
    else { m with exitCode := some code, phase := .endCycle }
  | .append text => { next with queue := m.queue ++ [.text text] }
  | .insert text => next.emit s text
  | .change text =>
    let inRange := e.rangeEnd.isSome && (match m.ranges[pc]? with
      | some (.active _) => true
      | _ => false)
    let m := if inRange then m else m.emit s text
    { m with phase := .fresh }
  | .readFile path => { next with queue := m.queue ++ [.file path] }
  | .readLine path =>
    match next.readerLine s path with
    | (m, some cs) => { m with queue := m.queue ++ [.text cs] }
    | (m, none) => m
  | .write path => next.writeTo s path m.pattern true
  | .writeFirst path =>
    match splitFirst s m.pattern with
    | some (first, _) => next.writeTo s path first true
    | none => next.writeTo s path m.pattern true
  | .translate pairs =>
    { next with pattern := m.pattern.map fun c => (pairs.lookup c).getD c }
  | .substitute sub =>
    match next.usePattern s sub.pattern with
    | (m, none) => m
    | (m, some p) =>
      match replaceMatches p sub m.pattern.toArray with
      | none => m
      | some out =>
        let m := { m with pattern := out, replaced := true }
        let m := if sub.print then m.emitLine s out m.ended else m
        match sub.writeTo with
        | some path => m.writeTo s path out true
        | none => m

/-- One step of a run. -/
def step (script : Script) (s : Settings) (m : Machine) : Machine :=
  match m.phase with
  | .finished => m
  | .fresh =>
    let m := m.dumpQueue s
    if m.isFinished then m
    else if m.exitCode.isSome then { m with phase := .finished }
    else
      match m.takeLine s with
      | (m, some l) =>
        if m.isFinished then m
        else { m with pattern := l.chars, ended := l.ended, replaced := false, phase := .running 0 }
      | (m, none) => { m with phase := .finished }
  | .restart => { m with phase := .running 0 }
  | .endCycle =>
    let m := if s.quiet then m else m.emitLine s m.pattern m.ended
    { m with phase := .fresh }
  | .running pc =>
    match script.entries[pc]? with
    | none => { m with phase := .endCycle }
    | some e =>
      let (m, hit) := m.selects s pc e
      if m.isFinished then m
      else
        match e.command with
        | .blockStart close => { m with phase := .running (if hit then pc + 1 else close + 1) }
        | _ => if hit then m.execute script s pc e else { m with phase := .running (pc + 1) }

/-- Runs a script until the run finishes or its budget is spent; a run that spends it
never ends. -/
def run (script : Script) (s : Settings) : Nat → Machine → Machine
  | 0, m => { m with endless := true, phase := .finished }
  | fuel + 1, m =>
    match m.phase with
    | .finished => m
    | _ => run script s fuel (m.step script s)

end Machine

/-! ### The utility -/

/-- The options of the editor. -/
def sedOptions : OptionSpec :=
  { flags := "bsnrzuE".toList, valued := "efl".toList, optional := ['i'],
    longs := [("binary", "b", false), ("regexp-extended", "E", false), ("debug", "debug", false),
      ("in-place", "i", false), ("expression", "e", true), ("file", "f", true),
      ("line-length", "l", true), ("null-data", "z", false), ("zero-terminated", "z", false),
      ("quiet", "n", false), ("posix", "posix", false), ("silent", "n", false),
      ("sandbox", "sandbox", false), ("separate", "s", false), ("unbuffered", "u", false),
      ("version", "version", false), ("help", "help", false), ("follow-symlinks", "follow", false)],
    optionalLongs := ["i"] }

/-- The editor's description of how to run it. -/
def sedUsage : String :=
  "Usage: sed [OPTION]... \x7bscript-only-if-no-other-script\x7d [input-file]...\n\n" ++
  "  -n, --quiet, --silent\n                 suppress automatic printing of pattern space\n" ++
  "      --debug\n                 annotate program execution\n" ++
  "  -e script, --expression=script\n                 add the script to the commands to be executed\n" ++
  "  -f script-file, --file=script-file\n                 add the contents of script-file to the commands to be executed\n" ++
  "  --follow-symlinks\n                 follow symlinks when processing in place\n" ++
  "  -i[SUFFIX], --in-place[=SUFFIX]\n                 edit files in place (makes backup if SUFFIX supplied)\n" ++
  "  -l N, --line-length=N\n                 specify the desired line-wrap length for the `l' command\n" ++
  "  --posix\n                 disable all GNU extensions.\n" ++
  "  -E, -r, --regexp-extended\n                 use extended regular expressions in the script\n                 (for portability use POSIX -E).\n" ++
  "  -s, --separate\n                 consider files as separate rather than as a single,\n                 continuous long stream.\n" ++
  "      --sandbox\n                 operate in sandbox mode (disable e/r/w commands).\n" ++
  "  -u, --unbuffered\n                 load minimal amounts of data from the input files and flush\n                 the output buffers more often\n" ++
  "  -z, --null-data\n                 separate lines by NUL characters\n" ++
  "      --help     display this help and exit\n" ++
  "      --version  output version information and exit\n\n" ++
  "If no -e, --expression, -f, or --file option is given, then the first\n" ++
  "non-option argument is taken as the sed script to interpret.  All\n" ++
  "remaining arguments are names of input files; if no input files are\n" ++
  "specified, then the standard input is read.\n\n" ++
  "GNU sed home page: <https://www.gnu.org/software/sed/>.\n" ++
  "General help using GNU software: <https://www.gnu.org/gethelp/>.\n"

/-- The number at the start of a text, as the C library's `atoi` reads it. -/
def leadingNumber (s : String) : Nat :=
  let cs := s.toList.dropWhile fun c => c = ' ' || c = '\t'
  let cs := match cs with
    | '+' :: r => r
    | r => r
  let ds := cs.takeWhile Char.isDigit
  ds.foldl (fun n c => n * 10 + (c.toNat - '0'.toNat)) 0

/-- A failed run with a complaint about how the editor was started and its usage. -/
def usageFailure (name message : String) : Completed :=
  { ({} : Completed).emit .err (encode (name ++ ": " ++ message ++ "\n" ++ sedUsage)) with status := 1 }

/-- The editor run as `name` with its arguments. -/
def runSed (ctx : Context) (name : String) (args : List String) : Completed :=
  match readOptions sedOptions args with
  | .error m => usageFailure name m
  | .ok (gs, operands) =>
    if hasOption gs "help" then
      Completed.ofOutput (encode (sedUsage ++ "E-mail bug reports to: <bug-sed@gnu.org>.\n"))
    else if hasOption gs "version" then Completed.ofOutput (encode "sed (GNU sed) 4.9\n")
    else
      let given := gs.filter fun g => g.1 == "e" || g.1 == "f"
      let (pieces?, files) : Except Completed (List ScriptPiece) × List String :=
        if given.isEmpty then
          match operands with
          | [] => (.error { ({} : Completed).emit .err (encode sedUsage) with status := 1 }, [])
          | script :: rest =>
            (.ok [{ text := charsOfBytes (encode script), origin := .expression 1 }], rest)
        else
          let step (acc : Except Completed (List ScriptPiece × Nat)) (g : Given) :=
            acc.bind fun (ps, k) =>
              let v := g.2.getD ""
              if g.1 == "e" then
                .ok (ps ++ [{ text := charsOfBytes (encode v), origin := .expression (k + 1) }], k + 1)
              else
                let bytes : Except Errno (List UInt8) :=
                  if v == "-" then .ok ctx.input.bytes
                  else match ctx.stat v with
                    | .ok (_, .file bs _) => .ok bs
                    | .ok _ => .error .isDir
                    | .error e => .error e
                match bytes with
                | .ok bs =>
                  let text := charsOfBytes bs
                  let text := if text.getLast? == some '\n' then text.dropLast else text
                  .ok (ps ++ [{ text, origin := .file v }], k)
                | .error e =>
                  .error { ({} : Completed).emit .err
                    (encode (name ++ ": couldn't open file " ++ v ++ ": " ++ e.text ++ "\n")) with status := 4 }
          ((given.foldl step (.ok ([], 0))).map (·.1), operands)
      match pieces? with
      | .error c => c
      | .ok pieces =>
        let d : Dialect := { extended := hasOption gs "E" || hasOption gs "r", sandbox := hasOption gs "sandbox" }
        match readScript d pieces with
        | .error m =>
          let status := if m.startsWith "can't find label" then 4 else 1
          { ({} : Completed).emit .err (encode (name ++ ": " ++ m ++ "\n")) with status }
        | .ok script =>
          let inPlace : Option String :=
            if hasOption gs "i" then some ((optionValue? gs "i").getD "") else none
          let settings : Settings :=
            { quiet := hasOption gs "n" || script.quiet,
              separate := hasOption gs "s" || inPlace.isSome,
              inPlace,
              delimiter := if hasOption gs "z" then '\x00' else '\n',
              lineWrap := match optionValue? gs "l" with
                | some v => leadingNumber v
                | none => 70,
              expressions := max 1 (gs.filter (·.1 == "e")).length }
          if inPlace.isSome && files.isEmpty then
            { ({} : Completed).emit .err (encode (name ++ ": no input files\n")) with status := 4 }
          else
            -- the files `w` writes are created before the run
            let targets := script.entries.toList.filterMap fun e =>
              match e.command with
              | .write p | .writeFirst p => some p
              | .substitute sub => sub.writeTo
              | _ => none
            let targets := targets.filter fun p => p != "/dev/stdout" && p != "/dev/stderr"
            let opened : Except (String × Errno) Tree := targets.foldl (fun acc p =>
              acc.bind fun t =>
                match t.writeBytes (ctx.resolve p) [] with
                | .ok t => .ok t
                | .error e => .error (p, e.errno)) (.ok ctx.tree)
            match opened with
            | .error (p, e) =>
              { ({} : Completed).emit .err (encode (name ++ ": couldn't open file " ++ p ++ ": " ++ e.text ++ "\n"))
                with status := 4 }
            | .ok tree =>
              let start : Machine :=
                { pending := (if files.isEmpty then ["-"] else files).map fun f =>
                    if f == "/dev/stdin" then "-" else f,
                  cwd := ctx.cwd, name,
                  ranges := script.entries.map fun e =>
                    match e.first, e.rangeEnd with
                    | some (.line 0), some _ => .active none
                    | _, _ => .idle,
                  written := targets.eraseDups.map fun p => (ctx.resolve p, #[]),
                  tree, input := ctx.input }
              let done := Machine.run script settings (start.budget + 1) start
              let done := done.finishEditing settings
              let tree := done.written.foldl (fun t (p, cs) =>
                match t.writeBytes p (bytesOfChars cs.toList) with
                | .ok t' => t'
                | .error _ => t) done.tree
              let status := match done.failure with
                | some c => c
                | none => if done.badInput then 2 else done.exitCode.getD 0
              { writes := [(.err, bytesOfChars done.stderr.toList), (.out, bytesOfChars done.stdout.toList)],
                status,
                slept := if done.endless then 1 / 0 else 0,
                tree := some tree,
                leftover := if done.stdinRead then some {} else none }

end IacLint.Tools.Sed
