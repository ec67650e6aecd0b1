import IacLint.Host.Process
import IacLint.Tools.Options

/-!
# Cutting parts of lines

`cut` writes parts of each line of its files: the bytes at some positions (`-b`, and
`-c`, which is the same in the C locale), or some fields (`-f`), fields being parted
by a delimiter (`-d`, a tab when not given). A line without the delimiter is written
whole, unless `-s`. `--complement` selects the parts not listed.

A list is written as numbers and ranges (`N`, `N-M`, `N-`, `-M`) parted by commas or
blanks, counted from 1. Selected fields are joined by the delimiter, or by the output
delimiter when one is given; selected ranges of bytes are joined by the output
delimiter only when one is given.

## Main definitions

* `readList` — a list of positions or fields
* `runCut` — the utility
-/

namespace IacLint.Tools.Cut

open IacLint.Host IacLint.Text IacLint.Tools

/-- Ranges of positions, each with its first and last (none: to the end). -/
abbrev Ranges := List (Nat × Option Nat)

/-- Reads a list of positions (`bytes`) or fields, or gives the complaint about it.
A number is read as far as it fits in 64 bits, less one. -/
def readList (bytes : Bool) (text : String) : Except String Ranges :=
  let numbered := if bytes then "byte/character positions are numbered from 1" else "fields are numbered from 1"
  let cs := text.toList
  -- the state: ranges so far, the first number of a range, the number read and where
  -- its digits began, whether a number came before and after the dash, and whether a
  -- dash was seen
  let rec go : Nat → List Char → Ranges → Nat → Nat → List Char → Bool → Bool → Bool → Except String Ranges
    | 0, _, acc, _, _, _, _, _, _ => .ok acc
    | fuel + 1, rest, acc, initial, value, run, lhs, rhs, dash =>
      match rest with
      | '-' :: more =>
        if dash then .error (if bytes then "invalid byte or character range" else "invalid field range")
        else if lhs && value == 0 then .error numbered
        else go fuel more acc (if lhs then value else 1) 0 [] lhs rhs true
      | c :: more =>
        if c = ',' || c = ' ' || c = '\t' then
          match close acc initial value lhs rhs dash with
          | .ok acc => go fuel more acc 1 0 [] false false false
          | .error e => .error e
        else if c.isDigit then
          let run := if run.isEmpty then rest else run
          let v := value * 10 + (c.toNat - '0'.toNat)
          if v ≥ Nat.pow 2 64 - 1 then
            .error ((if bytes then "byte/character offset '" else "field number '") ++
              String.ofList (run.takeWhile Char.isDigit) ++ "' is too large")
          else if dash then go fuel more acc initial v run lhs true dash
          else go fuel more acc initial v run true rhs dash
        else
          .error ((if bytes then "invalid byte/character position " else "invalid field value ") ++
            "'" ++ String.ofList rest ++ "'")
      | [] => close acc initial value lhs rhs dash
  go (cs.length + 1) cs [] 1 0 [] false false false
where
  /-- Ends one item of the list. -/
  close (acc : Ranges) (initial value : Nat) (lhs rhs dash : Bool) : Except String Ranges :=
    if dash then
      if !lhs && !rhs then .error "invalid range with no endpoint: -"
      else if !rhs then .ok (acc ++ [(initial, none)])
      else if value < initial then .error "invalid decreasing range"
      else .ok (acc ++ [(initial, some value)])
    else if value == 0 then
      .error (if bytes then "byte/character positions are numbered from 1" else "fields are numbered from 1")
    else .ok (acc ++ [(value, some value)])

/-- Whether a position is in the ranges. -/
def Ranges.has (rs : Ranges) (k : Nat) : Bool :=
  rs.any fun (lo, hi) => lo ≤ k && hi.all (k ≤ ·)

/-- The parts of a line a byte list selects, grouped in runs of adjacent positions. -/
def selectBytes (rs : Ranges) (complement : Bool) (line : List UInt8) : List (List UInt8) :=
  let picked := (line.zipIdx 1).filter fun (_, k) => rs.has k != complement
  let (groups, _) := picked.foldl (fun (acc : List (List UInt8) × Option Nat) (b, k) =>
    let (gs, last) := acc
    match last, gs with
    | some l, g :: more => if k == l + 1 then ((g ++ [b]) :: more, some k) else ([b] :: g :: more, some k)
    | _, _ => ([b] :: gs, some k)) ([], none)
  groups.reverse

/-- The fields of a line. -/
def fieldsOf (delim : UInt8) (line : List UInt8) : List (List UInt8) :=
  let rec go : Nat → List UInt8 → List (List UInt8)
    | 0, rest => [rest]
    | fuel + 1, rest =>
      let f := rest.takeWhile (· != delim)
      if f.length < rest.length then f :: go fuel (rest.drop (f.length + 1)) else [f]
  go (line.length + 1) line

/-- How `cut` was told to cut. -/
structure Settings where
  bytes : Bool
  ranges : Ranges
  complement : Bool := false
  delimiter : UInt8 := 9
  outputDelimiter : Option (List UInt8) := none
  onlyDelimited : Bool := false
  lineDelimiter : UInt8 := 10

/-- The output for one line, without its line delimiter, or nothing when the line is
left out. -/
def cutLine (s : Settings) (line : List UInt8) : Option (List UInt8) :=
  if s.bytes then
    let groups := selectBytes s.ranges s.complement line
    match s.outputDelimiter with
    | some d => some (d.intercalate groups)
    | none => some groups.flatten
  else if !line.contains s.delimiter then
    if s.onlyDelimited then none else some line
  else
    let fields := fieldsOf s.delimiter line
    let picked := ((fields.zipIdx 1).filter fun (_, k) => s.ranges.has k != s.complement).map (·.1)
    some ((s.outputDelimiter.getD [s.delimiter]).intercalate picked)

/-- The lines of some bytes, cut at a delimiter; the last may lack it. -/
def linesOf (delim : UInt8) (bs : List UInt8) : List (List UInt8) :=
  let rec go : Nat → List UInt8 → List (List UInt8)
    | 0, _ => []
    | _ + 1, [] => []
    | fuel + 1, rest =>
      let l := rest.takeWhile (· != delim)
      l :: go fuel (rest.drop (l.length + 1))
  go (bs.length + 1) bs

/-- `cut` run as `name` in a context. -/
def runCut (ctx : Context) (name : String) (args : List String) : Completed :=
  let spec : OptionSpec :=
    { flags := "nsz".toList, valued := "bcdf".toList,
      longs := [("bytes", "b", true), ("characters", "c", true), ("delimiter", "d", true),
        ("fields", "f", true), ("only-delimited", "s", false), ("zero-terminated", "z", false),
        ("complement", "complement", false), ("output-delimiter", "output-delimiter", true),
        ("help", "help", false), ("version", "version", false)] }
  let usage (m : String) : Completed := complaint (usageLines name m)
  match readOptions spec args with
  | .error m => usage m
  | .ok (gs, files) =>
    let lists := gs.filter fun g => g.1 == "b" || g.1 == "c" || g.1 == "f"
    if lists.length > 1 then usage "only one list may be specified"
    else
      let delims := gs.filter (·.1 == "d")
      let badDelim := delims.any fun g => (encode (g.2.getD "")).length > 1
      if badDelim then usage "the delimiter must be a single character"
      else
      match lists with
      | [] => usage "you must specify a list of bytes, characters, or fields"
      | (kind, v) :: _ =>
        let bytes := kind != "f"
        if bytes && !delims.isEmpty then
          usage "an input delimiter may be specified only when operating on fields"
        else if bytes && hasOption gs "s" then
          usage "suppressing non-delimited lines makes sense\n\tonly when operating on fields"
        else
          match readList bytes (v.getD "") with
          | .error m => usage m
          | .ok ranges =>
            let delimiter := match optionValue? gs "d" with
              | some d => (encode d).headD 0
              | none => 9
            let out : Option (List UInt8) := (optionValue? gs "output-delimiter").map fun d =>
              if d.isEmpty then [0] else encode d
            let s : Settings :=
              { bytes, ranges, complement := hasOption gs "complement", delimiter,
                outputDelimiter := out, onlyDelimited := hasOption gs "s",
                lineDelimiter := if hasOption gs "z" then 0 else 10 }
            let files := if files.isEmpty then ["-"] else files
            let (run, err) := files.foldl (fun (acc : Completed × Completed) f =>
              let (run, err) := acc
              let data : Except String (List UInt8) :=
                if f == "-" then .ok ctx.input.bytes
                else match ctx.stat f with
                  | .ok (_, .file bs _) => .ok bs
                  | .ok _ => .error "Is a directory"
                  | .error e => .error e.text
              match data with
              | .ok bs =>
                let lines := linesOf s.lineDelimiter bs
                let outBytes := lines.flatMap fun l =>
                  match cutLine s l with
                  | some o => o ++ [s.lineDelimiter]
                  | none => []
                (run.emit .out outBytes, err)
              | .error m =>
                (run, { err.warn (name ++ ": " ++ f ++ ": " ++ m) with status := 1 })) ({}, {})
            { err with writes := err.writes ++ run.writes,
                       leftover := if files.contains "-" then some {} else none }

end IacLint.Tools.Cut
