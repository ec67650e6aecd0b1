import IacLint.Host.Process
import IacLint.Tools.Options
import IacLint.Text.Regex

/-!
# Searching files for lines

`grep` writes the lines of its files that match any of its patterns. The patterns are
basic expressions, extended ones with `-E`, or fixed strings with `-F`; several are
given one per line. A match may be asked to be a whole word (`-w`) or the whole line
(`-x`), and `-v` selects the lines that do not match.

What is written for a selected line is the line itself, each match alone (`-o`), or
nothing but a count (`-c`) or the file's name (`-l`, `-L`). Each is prefixed by the
file's name when several files are searched (`-H`, `-h`), then its line number (`-n`)
and byte offset (`-b`); `:` follows these on selected lines and `-` on the lines of
context shown around them (`-A`, `-B`, `-C`), groups of which are parted by `--`.

A file holding a NUL byte is binary: instead of its lines, a note that it matches is
written. A file that cannot be read is reported, and the run then fails with status
2; otherwise the status is 0 when a line was selected and 1 when none was.

The search is made a byte at a time, as in the C locale.

## Main definitions

* `Matcher` — the patterns and how they match
* `runGrep` — the utility
-/

namespace IacLint.Tools.Grep

open IacLint.Host IacLint.Files IacLint.Text IacLint.Tools

/-- The characters of some bytes, one per byte. -/
def charsOfBytes (bs : List UInt8) : List Char := bs.map fun b => Char.ofNat b.toNat

/-- The bytes of characters that each stand for a byte. -/
def bytesOfChars (cs : List Char) : List UInt8 := cs.map fun c => c.toNat.toUInt8

/-- The patterns and how they match a line. -/
structure Matcher where
  patterns : List Regex
  mode : MatchMode
  words : Bool := false
  whole : Bool := false

/-- Whether a character is part of a word. -/
def isWordByte (c : Char) : Bool := c.isAlphanum || c = '_'

/-- The ends of the matches of any pattern that start at `pos`, the longest first. -/
def Matcher.ends (m : Matcher) (text : Array Char) (pos : Nat) : List Nat :=
  let all := m.patterns.flatMap fun r => (r.paths text m.mode (r.fuel text) pos []).map (·.1)
  (all.eraseDups.mergeSort (· ≥ ·))

/-- Whether a match from `s` to `e` stands as a whole word. -/
def wordBounded (text : Array Char) (s e : Nat) : Bool :=
  (s == 0 || !isWordByte (text[s - 1]?.getD ' ')) && !isWordByte (text[e]?.getD ' ')

/-- The first match at or after `start`: its start and end. A whole-word match is the
longest at its start that is bounded by non-word characters; a whole-line match spans
the line. -/
def Matcher.find (m : Matcher) (text : Array Char) (start : Nat) : Option (Nat × Nat) :=
  if m.whole then
    if start == 0 && (m.ends text 0).contains text.size then some (0, text.size) else none
  else
    let rec go : Nat → Nat → Option (Nat × Nat)
      | 0, _ => none
      | fuel + 1, pos =>
        if pos > text.size then none
        else
          let ends := m.ends text pos
          let ends := if m.words then ends.filter (wordBounded text pos ·) else ends
          match ends with
          | e :: _ => some (pos, e)
          | [] => go fuel (pos + 1)
    go (text.size + 2) start

/-- Whether a line matches. -/
def Matcher.matches (m : Matcher) (text : Array Char) : Bool := (m.find text 0).isSome

/-- The non-empty matches in a line, in order: their starts and ends. -/
def Matcher.allMatches (m : Matcher) (text : Array Char) : List (Nat × Nat) :=
  let rec go : Nat → Nat → List (Nat × Nat)
    | 0, _ => []
    | fuel + 1, pos =>
      match m.find text pos with
      | none => []
      | some (s, e) =>
        if s == e then go fuel (s + 1)
        else (s, e) :: go fuel e
  go (text.size + 2) 0

/-- A fixed string as an expression. -/
def literal (cs : List Char) : Regex := cs.foldr (fun c r => .seq (.char c) r) .empty

/-- What a run is told to do. -/
structure Settings where
  invert : Bool := false
  count : Bool := false
  listMatching : Bool := false
  listMissing : Bool := false
  quiet : Bool := false
  onlyMatching : Bool := false
  lineNumbers : Bool := false
  byteOffsets : Bool := false
  withNames : Bool := false
  nullAfterName : Bool := false
  maxCount : Option Nat := none
  before : Nat := 0
  after : Nat := 0
  /-- Whether any context was asked for, so that groups are parted. -/
  context : Bool := false
  separator : Option String := some "--"
  text : Bool := false
  binaryNoMatch : Bool := false
  delimiter : Char := '\n'
  silent : Bool := false
  /-- The name the search was started by, which its complaints begin with. -/
  name : String := "grep"

/-- The output of a run so far: what was written, in order, whether a line was
selected, and whether an error was seen. -/
structure Output where
  writes : List (Channel × List UInt8) := []
  selected : Bool := false
  errors : Bool := false
  /-- Whether `-q` found a line, which ends the run. -/
  done : Bool := false

/-- Adds characters to a channel. -/
def Output.put (o : Output) (ch : Channel) (cs : List Char) : Output :=
  { o with writes := o.writes ++ [(ch, bytesOfChars cs)] }

/-- Reports an error about a file, unless told to be silent. -/
def Output.fileError (o : Output) (s : Settings) (name message : String) : Output :=
  let o := { o with errors := true }
  if s.silent then o else o.put .err (charsOfBytes (encode (s.name ++ ": " ++ name ++ ": " ++ message ++ "\n")))

/-- The prefix of an output line: the file's name, line number and byte offset, each
followed by `sep`. -/
def linePrefix (s : Settings) (name : String) (lineNo offset : Nat) (sep : Char) : List Char :=
  (if s.withNames then charsOfBytes (encode name) ++ [if s.nullAfterName then '\x00' else sep] else []) ++
  (if s.lineNumbers then (toString lineNo).toList ++ [sep] else []) ++
  (if s.byteOffsets then (toString offset).toList ++ [sep] else [])

/-- A line of a file: its characters and the offset of its first byte. -/
structure Line where
  chars : Array Char
  offset : Nat

/-- The lines of a file's characters, cut at a delimiter. -/
def linesOf (delim : Char) (cs : List Char) : List Line :=
  let rec go : Nat → List Char → Nat → List Line
    | 0, _, _ => []
    | _ + 1, [], _ => []
    | fuel + 1, cs, off =>
      let line := cs.takeWhile (· ≠ delim)
      { chars := line.toArray, offset := off } :: go fuel (cs.drop (line.length + 1)) (off + line.length + 1)
  go (cs.length + 1) cs 0

/-- Searches the characters of one file named `name` and adds what is written. -/
def searchFile (m : Matcher) (s : Settings) (o : Output) (name : String) (cs : List Char) : Output :=
  let lines := linesOf s.delimiter cs
  let binary := !s.text && s.delimiter == '\n' && cs.contains '\x00'
  if binary && s.binaryNoMatch then o
  else
  let selectedAt (l : Line) : Bool := m.matches l.chars != s.invert
  let limit := s.maxCount.getD (lines.length + 1)
  -- the lines selected, in order, no more than the limit
  let picked : List Nat := ((List.range lines.length).filter fun i =>
    match lines[i]? with
    | some l => selectedAt l
    | none => false).take limit
  let any := !picked.isEmpty
  let o := { o with selected := o.selected || any }
  if s.quiet then { o with done := any }
  else if s.listMatching then
    if any then o.put .out (charsOfBytes (encode name) ++ [if s.nullAfterName then '\x00' else '\n']) else o
  else if s.listMissing then
    if any then o else o.put .out (charsOfBytes (encode name) ++ [if s.nullAfterName then '\x00' else '\n'])
  else if s.count then
    let pre := if s.withNames then charsOfBytes (encode name) ++ [if s.nullAfterName then '\x00' else ':'] else []
    o.put .out (pre ++ (toString picked.length).toList ++ ['\n'])
  else if binary then
    if any then o.put .err (charsOfBytes (encode (s.name ++ ": " ++ name ++ ": binary file matches\n"))) else o
  else
    -- the lines to write: selected ones and their context, with the last written
    let lastPicked := picked.getLast?.getD 0
    let shown : List (Nat × Bool) := (List.range lines.length).filterMap fun i =>
      if picked.contains i then some (i, true)
      else
        let nearAfter := picked.any fun p => p < i && i ≤ p + s.after
        let nearBefore := picked.any fun p => i < p && p ≤ i + s.before
        -- trailing context stops with the last selected line's
        if (nearAfter || nearBefore) && (i ≤ lastPicked + s.after) then some (i, false) else none
    let (o, _) := shown.foldl (fun (acc : Output × Option Nat) (i, isMatch) =>
      let (o, last) := acc
      match lines[i]? with
      | none => acc
      | some l =>
        let o := match last, s.separator with
          | some k, some sepText => if s.context && i > k + 1 then o.put .out (sepText.toList ++ ['\n']) else o
          | _, _ => o
        let o :=
          if s.onlyMatching then
            if isMatch && !s.invert then
              (m.allMatches l.chars).foldl (fun o (a, b) =>
                o.put .out (linePrefix s name (i + 1) (l.offset + a) ':' ++
                  (l.chars.toList.drop a).take (b - a) ++ [s.delimiter])) o
            else o
          else
            o.put .out (linePrefix s name (i + 1) l.offset (if isMatch then ':' else '-') ++
              l.chars.toList ++ [s.delimiter])
        (o, some i)) (o, none)
    o

/-- The files under a directory, in the order of the tree, with their paths. -/
def filesUnder (t : Tree) : Nat → List String → String → List String
  | 0, _, _ => []
  | fuel + 1, loc, shown =>
    (t.childNames loc).flatMap fun n =>
      let path := if shown.isEmpty then n else if shown.endsWith "/" then shown ++ n else shown ++ "/" ++ n
      match t.find? (loc ++ [n]) with
      | some .dir => filesUnder t fuel (loc ++ [n]) path
      | some (.file _ _) => [path]
      | _ => []

/-- A Perl expression with its digit classes `\d` and `\D` written as brackets. -/
def perlClasses (cs : List Char) : List Char :=
  let rec go : Nat → List Char → List Char
    | 0, cs => cs
    | _ + 1, [] => []
    | fuel + 1, '\\' :: 'd' :: rest => "[0-9]".toList ++ go fuel rest
    | fuel + 1, '\\' :: 'D' :: rest => "[^0-9]".toList ++ go fuel rest
    | fuel + 1, '\\' :: c :: rest => '\\' :: c :: go fuel rest
    | fuel + 1, c :: rest => c :: go fuel rest
  go (cs.length + 1) cs

/-- The options of `grep`. -/
def grepOptions : OptionSpec :=
  { flags := "EFGPHIJLNRTUVZabchilnoqrsuvwxyz0123456789".toList,
    valued := "ABCDXdefm".toList,
    longs := [("basic-regexp", "G", false), ("extended-regexp", "E", false),
      ("fixed-regexp", "F", false), ("fixed-strings", "F", false), ("perl-regexp", "P", false),
      ("after-context", "A", true), ("before-context", "B", true), ("binary-files", "binary-files", true),
      ("byte-offset", "b", false), ("context", "C", true), ("color", "color", false),
      ("colour", "color", false), ("count", "c", false), ("devices", "D", true),
      ("directories", "d", true), ("dereference-recursive", "R", false), ("exclude", "exclude", true),
      ("exclude-from", "exclude-from", true), ("exclude-dir", "exclude-dir", true), ("file", "f", true),
      ("files-with-matches", "l", false), ("files-without-match", "L", false),
      ("group-separator", "group-separator", true), ("help", "help", false), ("include", "include", true),
      ("ignore-case", "i", false), ("no-ignore-case", "no-ignore-case", false), ("initial-tab", "T", false),
      ("label", "label", true), ("line-buffered", "line-buffered", false), ("line-number", "n", false),
      ("line-regexp", "x", false), ("max-count", "m", true), ("no-filename", "h", false),
      ("no-group-separator", "no-group-separator", false), ("no-messages", "s", false),
      ("null", "Z", false), ("null-data", "z", false), ("only-matching", "o", false),
      ("quiet", "q", false), ("recursive", "r", false), ("regexp", "e", true),
      ("invert-match", "v", false), ("silent", "q", false), ("text", "a", false), ("binary", "U", false),
      ("unix-byte-offsets", "u", false), ("version", "V", false), ("with-filename", "H", false),
      ("word-regexp", "w", false)],
    optionalLongs := ["color"] }

/-- The lines `grep` writes about a mistake in how it was started. -/
def grepUsage (name : String) : String :=
  "Usage: " ++ name ++ " [OPTION]... PATTERNS [FILE]...\nTry '" ++ name ++ " --help' for more information.\n"

/-- A failed start: a complaint, then the usage lines. -/
def grepFailure (name message : String) (usage : Bool) : Completed :=
  { ({} : Completed).emit .err (encode (name ++ ": " ++ message ++ "\n" ++ (if usage then grepUsage name else "")))
    with status := 2 }

/-- A count given to an option, as a decimal number. -/
def readCountArg (v : String) : Option Nat :=
  if !v.isEmpty && v.toList.all Char.isDigit then some v.toNat! else none

/-- The warnings the search writes about repetitions with nothing to repeat in an
extended expression. -/
def leadingRepeatWarnings (cs : List Char) : List String :=
  let starts : List (List Char) := cs :: (List.range cs.length).filterMap fun i =>
    match cs[i]? with
    | some '|' | some '(' => some (cs.drop (i + 1))
    | _ => none
  starts.filterMap fun rest =>
    match rest with
    | '*' :: _ => some "* at start of expression"
    | '+' :: _ => some "+ at start of expression"
    | '?' :: _ => some "? at start of expression"
    | '\x7b' :: r =>
      match readInterval true r with
      | .ok _ => some "\x7b...\x7d at start of expression"
      | .error _ => none
    | _ => none

/-- Whether an argument is an option that takes the next argument as its value. -/
def takesNextValue (a : String) : Bool :=
  match a.toList with
  | '-' :: '-' :: body =>
    !body.contains '=' && (grepOptions.longs.any fun (l, _, takes) => takes && l.startsWith (String.ofList body)) &&
      !body.isEmpty
  | '-' :: letters@(_ :: _) =>
    -- the value is the next argument when the cluster ends with an option that takes one
    let rec lastTakes : List Char → Bool
      | [] => false
      | c :: rest => if grepOptions.valued.contains c then rest.isEmpty else lastTakes rest
    lastTakes letters
  | _ => false

/-- The arguments with options made of digits (`-5`) written as the context count
they stand for, when they are not the value of the option before them. -/
def digitContext (args : List String) : List String :=
  let rec go : List String → Bool → List String
    | [], _ => []
    | a :: rest, isValue =>
      if isValue then a :: go rest false
      else if a == "--" then a :: rest
      else
        let a' := match a.toList with
          | '-' :: ds@(d :: _) => if d.isDigit && ds.all Char.isDigit then "-C" ++ String.ofList ds else a
          | _ => a
        a' :: go rest (takesNextValue a)
  go args false

/-- `grep` run as `name` in a context. -/
def runGrep (ctx : Context) (name : String) (args : List String) : Completed :=
  let args := digitContext args
  match readOptions grepOptions args with
  | .error m => grepFailure name m true
  | .ok (gs, operands) =>
    if hasOption gs "help" then Completed.ofOutput (encode (grepUsage name))
    else if hasOption gs "V" then Completed.ofOutput (encode "grep (GNU grep) 3.11\n")
    else
      let kinds := (gs.filter fun g => g.1 == "E" || g.1 == "F" || g.1 == "G" || g.1 == "P").map (·.1)
      if kinds.eraseDups.length > 1 then grepFailure name "conflicting matchers specified" false
      else
      let kind := kinds.headD "G"
      let given := gs.filter fun g => g.1 == "e" || g.1 == "f"
      let patternSource : Except Completed (List String × List String) :=
        if given.isEmpty then
          match operands with
          | [] => .error { ({} : Completed).emit .err (encode (grepUsage name)) with status := 2 }
          | p :: rest => .ok (Text.splitOnChar p '\n', rest)
        else
          let pats := given.foldl (fun (acc : Except Completed (List String)) (g : Given) =>
            acc.bind fun ps =>
              let v := g.2.getD ""
              if g.1 == "e" then .ok (ps ++ Text.splitOnChar v '\n')
              else
                let bytes : Except Errno (List UInt8) :=
                  if v == "-" then .ok ctx.input.bytes
                  else match ctx.stat v with
                    | .ok (_, .file bs _) => .ok bs
                    | .ok _ => .error .isDir
                    | .error e => .error e
                match bytes with
                | .ok bs =>
                  let text := decodeLossy bs
                  let ls := Text.splitOnChar text '\n'
                  let ls := if text.endsWith "\n" then ls.dropLast else ls
                  .ok (ps ++ (if text.isEmpty then [] else ls))
                | .error e => .error (grepFailure name (v ++ ": " ++ e.text) false)) (.ok [])
          pats.map fun ps => (ps, operands)
      match patternSource with
      | .error c => c
      | .ok (patterns, files) =>
        let icase := gs.foldl (fun b (g : Given) =>
          if g.1 == "i" || g.1 == "y" then true else if g.1 == "no-ignore-case" then false else b) false
        let extended := kind == "E" || kind == "P"
        let compiled : Except String (List Regex) := patterns.foldl (fun acc p =>
          acc.bind fun rs =>
            let cs := charsOfBytes (encode p)
            if kind == "F" then .ok (rs ++ [literal cs])
            else
              let cs := if kind == "P" then perlClasses cs else cs
              match parseRegexIn { extended, lenient := extended } (String.ofList cs) with
              | .ok (r, _) => .ok (rs ++ [r])
              | .error e => .error e) (.ok [])
        match compiled with
        | .error e => grepFailure name e false
        | .ok regexes =>
          let warnings := if extended then patterns.flatMap fun p => leadingRepeatWarnings p.toList else []
          let numberOf (key : String) : Except Completed (Option Nat) :=
            match optionValue? gs key with
            | none => .ok none
            | some v =>
              match readCountArg v with
              | some n => .ok (some n)
              | none => .error (grepFailure name (v ++ ": invalid context length argument") false)
          match numberOf "A", numberOf "B", numberOf "C" with
          | .error c, _, _ | _, .error c, _ | _, _, .error c => c
          | .ok a, .ok b, .ok c =>
            let maxCount : Except Completed (Option Nat) :=
              match optionValue? gs "m" with
              | none => .ok none
              | some v =>
                match v.toList with
                | '-' :: ds => if !ds.isEmpty && ds.all Char.isDigit then .ok none
                               else .error (grepFailure name "invalid max count" false)
                | _ =>
                  match readCountArg v with
                  | some n => .ok (some n)
                  | none => .error (grepFailure name "invalid max count" false)
            match maxCount with
            | .error c => c
            | .ok maxCount =>
              let recursive := hasOption gs "r" || hasOption gs "R"
              let noFiles := files.isEmpty
              let files := if noFiles then (if recursive then ["."] else ["-"]) else files
              let withNames :=
                if hasOption gs "h" then false
                else if hasOption gs "H" then true
                else files.length > 1 || recursive
              let binaryMode := optionValue? gs "binary-files"
              let settings : Settings :=
                { invert := hasOption gs "v", count := hasOption gs "c",
                  listMatching := hasOption gs "l", listMissing := hasOption gs "L",
                  quiet := hasOption gs "q", onlyMatching := hasOption gs "o",
                  lineNumbers := hasOption gs "n", byteOffsets := hasOption gs "b",
                  withNames, nullAfterName := hasOption gs "Z", maxCount,
                  before := (b.orElse fun _ => c).getD 0, after := (a.orElse fun _ => c).getD 0,
                  context := a.isSome || b.isSome || c.isSome,
                  separator := if hasOption gs "no-group-separator" then none
                    else some ((optionValue? gs "group-separator").getD "--"),
                  text := hasOption gs "a" || binaryMode == some "text",
                  binaryNoMatch := hasOption gs "I" || binaryMode == some "without-match",
                  delimiter := if hasOption gs "z" then '\x00' else '\n',
                  silent := hasOption gs "s", name }
              let matcher : Matcher :=
                { patterns := regexes, mode := { icase }, words := hasOption gs "w", whole := hasOption gs "x" }
              let label := (optionValue? gs "label").getD "(standard input)"
              let start : Output :=
                { writes := warnings.map fun w => (.err, encode (name ++ ": warning: " ++ w ++ "\n")) }
              let searchPath (o : Output) (f : String) : Output :=
                if o.done then o
                else if f == "-" then searchFile matcher settings o label (charsOfBytes ctx.input.bytes)
                else
                  match ctx.stat f with
                  | .ok (_, .file bs _) => searchFile matcher settings o f (charsOfBytes bs)
                  | .ok (loc, .dir) =>
                    if recursive then
                      let shown := if noFiles then "" else f
                      (filesUnder ctx.tree 64 loc shown).foldl (fun o p =>
                        if o.done then o
                        else
                          match ctx.stat p with
                          | .ok (_, .file bs _) => searchFile matcher settings o p (charsOfBytes bs)
                          | _ => o) o
                    else o.fileError settings f "Is a directory"
                  | .ok _ => o
                  | .error e => o.fileError settings f e.text
              let done := files.foldl searchPath start
              let status := if done.errors && !(settings.quiet && done.selected) then 2
                else if done.selected then 0 else 1
              { writes := done.writes, status,
                leftover := if files.contains "-" then some {} else none }

end IacLint.Tools.Grep
