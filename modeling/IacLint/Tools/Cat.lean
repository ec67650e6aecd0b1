import IacLint.Host.Process
import IacLint.Tools.Options

/-!
# Concatenating files

`cat [OPTION]… [FILE]…` writes its files one after the other; `-` or no file at all
reads the input. Options change how lines are shown:

* `-n` numbers every line and `-b` every line that is not empty (`-b` wins), as the
  number right-aligned in six places and a tab; numbers go on across files, and a
  file that ends inside a line goes on with that line in the next one;
* `-s` squeezes runs of empty lines into one;
* `-E` writes `$` at each line's end, `-T` writes tabs as `^I`, and `-v` writes
  control characters as `^X`, DEL as `^?` and bytes from 128 on as `M-` and the
  byte 128 lower; `-A` is `-vET`, `-e` is `-vE`, `-t` is `-vT`.

A file that cannot be read is reported in order among the output, and the run then
fails.

## Main definitions

* `CatStyle` — how `cat` shows lines
* `catBytes` — the bytes `cat` writes for one file, and the state after it
* `runCat` — the `cat` utility
-/

namespace IacLint.Tools

open IacLint.Host IacLint.Files IacLint.Text

/-- How `cat` shows lines. -/
structure CatStyle where
  number : Bool := false
  numberNonblank : Bool := false
  squeeze : Bool := false
  ends : Bool := false
  tabs : Bool := false
  nonprinting : Bool := false

/-- Where `cat` stands between files: the last line number written, whether the next
byte starts a line, and the empty lines just written in a row. -/
structure CatState where
  lineNumber : Nat := 0
  atStart : Bool := true
  emptyRun : Nat := 0

/-- A line number as `cat` writes it: right-aligned in six places, then a tab. -/
def catNumber (n : Nat) : List UInt8 :=
  let s := toString n
  encode (String.ofList (List.replicate (6 - s.length) ' ') ++ s ++ "\t")

/-- A byte as `-v` shows it. -/
def showByte (tabs : Bool) (b : UInt8) : List UInt8 :=
  let n := b.toNat
  let low (x : Nat) : List UInt8 :=
    if x = 9 then (if tabs then [94, 73] else [9])
    else if x < 32 then [94, (x + 64).toUInt8]
    else if x = 127 then [94, 63]
    else [x.toUInt8]
  if n ≥ 128 then
    let x := n - 128
    [77, 45] ++ (if x = 9 then [94, 73] else low x)
  else low n

/-- The bytes `cat` writes for some bytes in a style, from a state: the output and the
state after. -/
def catBytes (style : CatStyle) (bs : List UInt8) (st : CatState) : List UInt8 × CatState :=
  let shows := style.nonprinting || style.tabs
  let plain := !(style.number || style.numberNonblank || style.squeeze || style.ends || shows)
  if plain then
    (bs, if bs.isEmpty then st else { st with atStart := bs.getLast? == some 10 })
  else
    bs.foldl (fun (acc : List UInt8 × CatState) b =>
      let (out, st) := acc
      if b == 10 then
        -- an empty line when the line feed starts a line
        let empty := st.atStart
        if empty && style.squeeze && st.emptyRun ≥ 1 then (out, st)
        else
          let num := if empty && style.number && !style.numberNonblank then catNumber (st.lineNumber + 1)
            else []
          let st := if num.isEmpty then st else { st with lineNumber := st.lineNumber + 1 }
          let ends : List UInt8 := if style.ends then [36] else []
          (out ++ num ++ ends ++ [10],
            { st with atStart := true, emptyRun := if empty then st.emptyRun + 1 else 0 })
      else
        let (num, st) :=
          if st.atStart && (style.number || style.numberNonblank) then
            (catNumber (st.lineNumber + 1), { st with lineNumber := st.lineNumber + 1 })
          else ([], st)
        let shown := if style.nonprinting then showByte style.tabs b
          else if style.tabs && b == 9 then [94, 73] else [b]
        (out ++ num ++ shown, { st with atStart := false, emptyRun := 0 })) ([], st)

/-- The options of `cat`. -/
def catOptions : OptionSpec :=
  { flags := "AbeEnstTuv".toList,
    longs := [("show-all", "A", false), ("number-nonblank", "b", false), ("show-ends", "E", false),
      ("number", "n", false), ("squeeze-blank", "s", false), ("show-tabs", "T", false),
      ("show-nonprinting", "v", false), ("help", "help", false), ("version", "version", false)] }

/-- The style the options of `cat` ask for. -/
def catStyleOf (gs : List Given) : CatStyle :=
  gs.foldl (fun s (k, _) =>
    match k with
    | "A" => { s with nonprinting := true, ends := true, tabs := true }
    | "b" => { s with numberNonblank := true }
    | "e" => { s with nonprinting := true, ends := true }
    | "E" => { s with ends := true }
    | "n" => { s with number := true }
    | "s" => { s with squeeze := true }
    | "t" => { s with nonprinting := true, tabs := true }
    | "T" => { s with tabs := true }
    | "v" => { s with nonprinting := true }
    | _ => s) {}

/-- `cat` run as `name` in a context. -/
def runCat (ctx : Context) (name : String) (args : List String) : Completed :=
  match readOptions catOptions args with
  | .error m => complaint (usageLines name m)
  | .ok (gs, files) =>
    let style := catStyleOf gs
    let files := if files.isEmpty then ["-"] else files
    let (run, _, input) := files.foldl (fun (acc : Completed × CatState × Option Input) p =>
      let (run, st, input) := acc
      if p == "-" then
        let bs := (input.getD ctx.input).bytes
        let (out, st) := catBytes style bs st
        (run.emit .out out, st, some { (input.getD ctx.input) with bytes := [] })
      else
        match ctx.readBytes p with
        | .ok bs =>
          let (out, st) := catBytes style bs st
          (run.emit .out out, st, input)
        | .error e => ({ run.warn (name ++ ": " ++ p ++ ": " ++ e.errno.text) with status := 1 }, st, input))
      ({}, {}, none)
    { run with leftover := input }

end IacLint.Tools
