import IacLint.Host.Process
import IacLint.Tools.Options

/-!
# The first and last lines of files

`head` writes the first lines (or bytes) of each file, 10 lines when not told
otherwise; `-n -K` writes all but the last `K`. `tail` writes the last ones; `-n +K`
starts at line `K`. Either takes the count in the old form as its first argument
(`head -5`, `tail -5`, `tail +5`), `tail` only with a single file. With several
files each part is headed `==> NAME <==`, a blank line between them, unless `-q`;
`-v` heads a single file as well, and the input is named `standard input`.

A count may carry a size suffix (`K`, `M`, … by 1024, `kB`, `MB`, … by 1000, `b` by
512). A file that cannot be opened is reported and skipped, and the run then fails.
Reading the input from a regular file leaves the rest of it after the lines `head`
took, as `head` moves the file offset back to just after them.

## Main definitions

* `readCount` — a count with its sign and suffix
* `runHead`, `runTail` — the utilities
-/

namespace IacLint.Tools

open IacLint.Host IacLint.Files IacLint.Text

/-- The multiplier of a size suffix. -/
def suffixScale (s : String) : Option Nat :=
  let powers : List (Char × Nat) :=
    [('K', 1), ('k', 1), ('M', 2), ('m', 2), ('G', 3), ('g', 3), ('T', 4), ('t', 4), ('P', 5), ('p', 5),
     ('E', 6), ('e', 6), ('Z', 7), ('z', 7), ('Y', 8), ('y', 8)]
  match s.toList with
  | [] => some 1
  | ['b'] => some 512
  | [c] => (powers.lookup c).bind fun k => if c = 'k' then none else some (Nat.pow 1024 k)
  | [c, 'B'] => (powers.lookup c).map fun k => Nat.pow 1000 k
  | [c, 'i', 'B'] => (powers.lookup c).bind fun k => if c = 'k' then none else some (Nat.pow 1024 k)
  | _ => none

/-- A count as `head` and `tail` read it: its sign (`-`, `+` or none) and size. -/
def readCount (s : String) : Option (Option Char × Nat) :=
  let (sign, body) := match s.toList with
    | '-' :: r => (some '-', r)
    | '+' :: r => (some '+', r)
    | r => (none, r)
  let ds := body.takeWhile Char.isDigit
  if ds.isEmpty then none
  else (suffixScale (String.ofList (body.drop ds.length))).map fun k => (sign, (String.ofList ds).toNat! * k)

/-- The lines of some bytes, each with its line feed (the last one may have none). -/
def splitLines (bs : List UInt8) : List (List UInt8) :=
  let rec go (fuel : Nat) (bs : List UInt8) : List (List UInt8) :=
    match fuel with
    | 0 => []
    | fuel + 1 =>
      if bs.isEmpty then []
      else
        let line := bs.takeWhile (· != 10)
        if line.length < bs.length then (line ++ [10]) :: go fuel (bs.drop (line.length + 1))
        else [line]
  go (bs.length + 1) bs

/-- What part of each file to write: lines or bytes, the count, and whether the count
is of the part to leave out at the other end (`head -n -K`, `tail -n +K`). -/
structure Portion where
  bytes : Bool := false
  count : Nat := 10
  other : Bool := false

/-- The part `head` writes. -/
def headOf (p : Portion) (bs : List UInt8) : List UInt8 :=
  if p.bytes then (if p.other then bs.take (bs.length - p.count) else bs.take p.count)
  else
    let ls := splitLines bs
    (if p.other then ls.take (ls.length - p.count) else ls.take p.count).flatten

/-- The part `tail` writes; `other` counts from the start (`+K`, the first being 1). -/
def tailOf (p : Portion) (bs : List UInt8) : List UInt8 :=
  if p.bytes then (if p.other then bs.drop (p.count - 1) else bs.drop (bs.length - p.count))
  else
    let ls := splitLines bs
    (if p.other then ls.drop (p.count - 1) else ls.drop (ls.length - p.count)).flatten

/-- The options of `head` and `tail`. -/
def headTailOptions (tail : Bool) : OptionSpec :=
  { flags := "qvzF".toList ++ (if tail then ['f', 'r'] else []),
    valued := ['n', 'c'] ++ (if tail then ['s'] else []),
    longs := [("lines", "n", true), ("bytes", "c", true), ("quiet", "q", false), ("silent", "q", false),
      ("verbose", "v", false), ("zero-terminated", "z", false), ("follow", "f", false),
      ("help", "help", false), ("version", "version", false)] }

/-- The old form of a count as the first argument (`-5`, `+5`, `-5c`): the options it
stands for. -/
def oldCount (tail : Bool) (a : String) : Option (List Given) :=
  match a.toList with
  | s :: rest =>
    if s = '-' || (tail && s = '+') then
      let ds := rest.takeWhile Char.isDigit
      let after := rest.drop ds.length
      let digits := if ds.isEmpty then "10" else String.ofList ds
      let sign := if s = '+' then "+" else if tail then "" else ""
      if ds.isEmpty && s = '-' then none
      else
        match after with
        | [] | ['l'] => some [("n", some (sign ++ digits))]
        | ['c'] => some [("c", some (sign ++ digits))]
        | ['f'] => if tail then some [("n", some (sign ++ digits)), ("f", none)] else none
        | _ => none
    else none
  | [] => none

/-- The lines `head` or `tail` writes for each file, with the headers and complaints. -/
def runPortion (tail : Bool) (ctx : Context) (name : String) (args : List String) : Completed :=
  let (old, rest) : Option (List Given) × List String := match args with
    | a :: more =>
      match oldCount tail a with
      | some gs => (some gs, more)
      | none => (none, args)
    | [] => (none, args)
  let parsed : Except String (List Given × List String) := match old with
    | some gs => (readOptions (headTailOptions tail) rest).map fun (gs', fs) => (gs ++ gs', fs)
    | none => readOptions (headTailOptions tail) args
  match parsed with
  | .error m => complaint (usageLines name m)
  | .ok (gs, files) =>
    if old.isSome && tail && files.length > 1 then
      complaint (name ++ ": option used in invalid context -- " ++
        String.ofList ((args.headD "").toList.drop 1 |>.takeWhile Char.isDigit))
    else
    let spec : Except String Portion := gs.foldl (fun (acc : Except String Portion) (g : Given) => acc.bind fun p =>
      let (k, v) := g
      if k == "n" || k == "c" then
        let text := v.getD ""
        match readCount text with
        | some (sign, n) =>
          .ok { bytes := k == "c", count := n,
                other := if tail then sign == some '+' else sign == some '-' }
        | none =>
          .error ("invalid number of " ++ (if k == "c" then "bytes" else "lines") ++ ": '" ++ text ++ "'")
      else .ok p) (.ok {})
    match spec with
    | .error m => complaint (name ++ ": " ++ m)
    | .ok portion =>
      let files := if files.isEmpty then ["-"] else files
      let headers := (files.length > 1 && !hasOption gs "q") || hasOption gs "v"
      let pick := if tail then tailOf portion else headOf portion
      let follow := tail && hasOption gs "f" && files.any (· != "-")
      let step (acc : Completed × Bool × Option Input) (p : String) :=
        let (run, first, input) := acc
        let header (label : String) : String :=
          if headers then (if first then "" else "\n") ++ "==> " ++ label ++ " <==\n" else ""
        if p == "-" then
          let inp := input.getD ctx.input
          let out := pick inp.bytes
          let left := if !tail && inp.regular then inp.bytes.drop out.length else []
          (run.emit .out (encode (header "standard input") ++ out), false, some { inp with bytes := left })
        else
          match ctx.stat p with
          | .ok (_, .file bs _) => (run.emit .out (encode (header p) ++ pick bs), false, input)
          | .ok _ =>
            ({ (run.say (header p)).warn (name ++ ": error reading '" ++ p ++ "': Is a directory") with
                status := 1 }, false, input)
          | .error e =>
            ({ run.warn (name ++ ": cannot open '" ++ p ++ "' for reading: " ++ e.text) with status := 1 },
              first, input)
      let (run, _, input) := files.foldl step ({}, true, none)
      { run with leftover := input, slept := if follow then 1 / 0 else 0 }

/-- `head` run as `name` in a context. -/
def runHead (ctx : Context) (name : String) (args : List String) : Completed :=
  runPortion false ctx name args

/-- `tail` run as `name` in a context; following a file (`-f`) never ends. -/
def runTail (ctx : Context) (name : String) (args : List String) : Completed :=
  runPortion true ctx name args

end IacLint.Tools
