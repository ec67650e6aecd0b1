import IacLint.Host.Process

/-!
# Counting lines, words and bytes

`wc [OPTION]… [FILE]…` writes the counts of each file and its name — lines, words and
bytes, or those its options ask for (`-l`, `-w`, `-m`, `-c`, `-L`) — and a total line
for several files. The counts are right-aligned to the width of the total size of the
regular files given (at least 7 when another kind of file is given, and 1 when the
first file cannot be read or one count of one file is asked for). Complaints about
files come before the counts, which are written when the run ends.

## Main definitions

* `WcCount` — the counts `wc` can give
* `runWc` — the `wc` utility
-/

namespace IacLint.Tools

open IacLint.Host IacLint.Files IacLint.Text

/-- Whether a byte separates words. -/
def isSpaceByte (b : UInt8) : Bool := b == 32 || (9 ≤ b && b ≤ 13)

/-- The number of words of some bytes: maximal runs of bytes that are not spaces. -/
def countWords (bs : List UInt8) : Nat :=
  (bs.foldl (fun (acc : Nat × Bool) b =>
    if isSpaceByte b then (acc.1, false) else if acc.2 then acc else (acc.1 + 1, true)) (0, false)).1

/-- A count right-aligned to a width. -/
def alignRight (width n : Nat) : String :=
  let s := toString n
  String.ofList (List.replicate (width - s.length) ' ') ++ s

/-- The counts `wc` can give, in the order it writes them. -/
inductive WcCount where
  | lines
  | words
  | chars
  | bytes
  | maxLineLength
  deriving DecidableEq, Inhabited

/-- Every count, in the order they are written. -/
def WcCount.all : List WcCount := [.lines, .words, .chars, .bytes, .maxLineLength]

/-- The count a short option letter asks for. -/
def WcCount.ofLetter? : Char → Option WcCount
  | 'l' => some .lines
  | 'w' => some .words
  | 'm' => some .chars
  | 'c' => some .bytes
  | 'L' => some .maxLineLength
  | _ => none

/-- The long options of the counts. -/
def WcCount.longNames : List (String × WcCount) :=
  [("lines", .lines), ("words", .words), ("chars", .chars), ("bytes", .bytes),
   ("max-line-length", .maxLineLength)]

/-- The columns a line of bytes takes: a tab moves to the next multiple of eight, a
printable character or the first byte of a longer one takes one column, and other
control bytes take none. -/
def lineWidth (bs : List UInt8) : Nat :=
  bs.foldl (fun col b =>
    if b == 9 then col + (8 - col % 8)
    else if b ≥ 32 && b != 127 && !(0x80 ≤ b && b < 0xC0) then col + 1
    else col) 0

/-- The longest line of some bytes, lines ending at line feeds, carriage returns and
form feeds. -/
def maxLineWidth (bs : List UInt8) : Nat :=
  let lines := (bs.splitBy fun a _ => !(a == 10 || a == 13 || a == 12)).map
    fun l => l.filter fun b => !(b == 10 || b == 13 || b == 12)
  lines.foldl (fun m l => max m (lineWidth l)) 0

/-- One count of some bytes. -/
def WcCount.of (bs : List UInt8) : WcCount → Nat
  | .lines => bs.count 10
  | .words => countWords bs
  | .chars => (bs.filter fun b => !(0x80 ≤ b && b < 0xC0)).length
  | .bytes => bs.length
  | .maxLineLength => maxLineWidth bs

/-- The reading of `wc`'s arguments: the counts asked for and the files, or the
complaint about an option. Options may come anywhere before `--`; `-` alone is a file. -/
def readWcArgs : List String → Except String (List WcCount × List String)
  | [] => .ok ([], [])
  | a :: rest =>
    if a == "--" then .ok ([], rest)
    else match a.toList with
      | '-' :: '-' :: name =>
        let n := String.ofList name
        match WcCount.longNames.filter fun (l, _) => l.startsWith n with
        | [(_, c)] => (readWcArgs rest).map fun (cs, fs) => (c :: cs, fs)
        | _ => .error ("unrecognized option '" ++ a ++ "'")
      | '-' :: letters@(_ :: _) =>
        match letters.mapM WcCount.ofLetter? with
        | some cs => (readWcArgs rest).map fun (cs', fs) => (cs ++ cs', fs)
        | none =>
          let bad := (letters.find? fun c => (WcCount.ofLetter? c).isNone).getD ' '
          .error ("invalid option -- '" ++ String.ofList [bad] ++ "'")
      | _ => (readWcArgs rest).map fun (cs, fs) => (cs, a :: fs)

/-- What `wc` counts: a file by its path, or the input, named `-` when asked for by
that name and unnamed when no file is given. -/
inductive WcSource where
  | file (path : String)
  | input (named : Bool)
  deriving Inhabited

/-- `wc`: the counts of each file and its name, and a total line for several files.
Without options the counts are lines, words and bytes. The counts are right-aligned to
the width of the total size of the regular files given, the input counting as one when
it comes from a file (at least 7 when another kind of file or a pipe is given); a single
count of a single file, or a first file that cannot be read, gives width 1. -/
def runWc (ctx : Context) (name : String) (args : List String) : Completed :=
  match readWcArgs args with
  | .error m => complaint (name ++ ": " ++ m ++ "\nTry '" ++ name ++ " --help' for more information.")
  | .ok (asked, files) =>
    let counts := if asked.isEmpty then [.lines, .words, .bytes] else WcCount.all.filter asked.contains
    let sources : List WcSource :=
      if files.isEmpty then [.input false]
      else files.map fun p => if p == "-" then .input true else .file p
    let found : List (WcSource × Except Errno Node) := sources.map fun src => match src with
      | .file p => (src, (ctx.tree.statPath (ctx.resolve p)).map (·.2))
      | .input _ => (src, .ok (.file ctx.input.bytes false))
    let regularTotal := found.foldl (fun acc (src, r) => match src, r with
      | .file _, .ok (.file bs _) => acc + bs.length
      | .input _, _ => if ctx.input.regular then acc + ctx.input.bytes.length else acc
      | _, _ => acc) 0
    let minimum := if found.any (fun (src, r) => match src, r with
      | .file _, .ok .dir => true
      | .input _, _ => !ctx.input.regular
      | _, _ => false) then 7 else 1
    let firstFailed := match found.head? with
      | some (_, .error _) => true
      | _ => false
    let width := if firstFailed || (sources.length == 1 && counts.length == 1) then 1
      else max minimum (toString regularTotal).length
    let line (values : List Nat) (name : Option String) : String :=
      " ".intercalate (values.map (alignRight width)) ++
        (match name with | some n => " " ++ n | none => "") ++ "\n"
    let nameOf : WcSource → Option String
      | .file p => some p
      | .input named => if named then some "-" else none
    let step (acc : String × List String × List Nat) (entry : WcSource × Except Errno Node) :=
      let (out, errs, totals) := acc
      let (src, r) := entry
      let p := (nameOf src).getD ""
      match r with
      | .ok (.file bs _) =>
        let values := counts.map (WcCount.of bs)
        (out ++ line values (nameOf src), errs, (totals.zip values).map fun (a, b) => a + b)
      | .ok _ =>
        (out ++ line (counts.map fun _ => 0) (nameOf src), errs ++ [name ++ ": " ++ p ++ ": Is a directory"],
          totals)
      | .error e => (out, errs ++ [name ++ ": " ++ p ++ ": " ++ e.text], totals)
    let (out, errs, totals) := found.foldl step ("", [], counts.map fun _ => 0)
    let totals := (counts.zip totals).map fun (c, n) =>
      if c == .maxLineLength then
        found.foldl (fun m (_, r) => match r with
          | .ok (.file bs _) => max m (maxLineWidth bs)
          | _ => m) 0
      else n
    let out := if found.length > 1 then out ++ line totals (some "total") else out
    let run : Completed := errs.foldl (fun c m => c.warn m) {}
    let readsInput := sources.any fun s => match s with
      | .input _ => true
      | .file _ => false
    { run.say out with status := if errs.isEmpty then 0 else 1,
                       leftover := if readsInput then some { ctx.input with bytes := [] } else none }

end IacLint.Tools
