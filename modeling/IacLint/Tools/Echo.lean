import IacLint.Tools.Printf

/-!
# Writing arguments back

`echo ARGS…` writes its arguments separated by spaces and ends the line. Three
programs of this name differ:

* the POSIX shell's built-in takes one `-n` first (no line break) and always expands
  escapes — those of `printf`'s `%b`, where `\0NNN` and `\NNN` are octal and `\c`
  ends all output;
* the larger shell's built-in and the utility take leading arguments made of the
  letters `n`, `e` and `E` after a dash as options: `-n` drops the line break, `-e`
  turns escapes on and `-E` off, the last one winning. The built-in knows `\E`, `\x`,
  `\u` and `\U` and reads octal only after `\0`; the utility knows `\x` and reads
  `\NNN` as well.

## Main definitions

* `EchoKind` — which `echo`
* `echoOutput` — the bytes an `echo` writes
-/

namespace IacLint.Tools

open IacLint.Text

/-- Which `echo`: the POSIX shell's built-in, the larger shell's, or the utility. -/
inductive EchoKind where
  | posixShell
  | bashShell
  | utility
  deriving Inhabited, BEq

/-- The escape after a backslash in `echo -e` of the larger shell or of the utility:
its bytes, the text after it, and whether it ends all output. -/
def echoEscape (bashShell : Bool) (cs : List Char) : List UInt8 × List Char × Bool :=
  match cs with
  | [] => ([92], [], false)
  | 'c' :: rest => ([], rest, true)
  | '0' :: rest =>
    let (v, n) := readDigitsIn octalDigit? 8 3 rest
    ([(v % 256).toUInt8], rest.drop n, false)
  | c :: rest =>
    match commonLetter? c with
    | some b => ([b], rest, false)
    | none =>
      if !bashShell && (octalDigit? c).isSome then
        let (v, n) := readDigitsIn octalDigit? 8 3 cs
        ([(v % 256).toUInt8], cs.drop n, false)
      else if c = 'x' then
        let (v, n) := readDigitsIn hexDigit? 16 2 rest
        if n = 0 then ([92], cs, false) else ([v.toUInt8], rest.drop n, false)
      else if bashShell && c = 'E' then ([27], rest, false)
      else if bashShell && (c = 'u' || c = 'U') then
        let (v, n) := readDigitsIn hexDigit? 16 (if c = 'u' then 4 else 8) rest
        if n = 0 then ([92], cs, false) else (encodeChar (Char.ofNat v), rest.drop n, false)
      else ([92], cs, false)

/-- A text with the escapes of `echo -e` expanded: its bytes and whether `\c` ended it.
Each step reads at least one character, so `fuel` of the text's length suffices. -/
def echoExpand (bashShell : Bool) : Nat → List Char → List UInt8 × Bool
  | 0, _ => ([], false)
  | _ + 1, [] => ([], false)
  | fuel + 1, '\\' :: rest =>
    let (bs, rest', stop) := echoEscape bashShell rest
    if stop then (bs, true)
    else
      let (more, s) := echoExpand bashShell fuel rest'
      (bs ++ more, s)
  | fuel + 1, c :: rest =>
    let (more, s) := echoExpand bashShell fuel rest
    (encodeChar c ++ more, s)

/-- Whether an argument is a list of `echo`'s option letters. -/
def isEchoOptions (a : String) : Bool :=
  match a.toList with
  | '-' :: letters => !letters.isEmpty && letters.all fun c => c == 'n' || c == 'e' || c == 'E'
  | _ => false

/-- The bytes an `echo` writes for its arguments. -/
def echoOutput (k : EchoKind) (args : List String) : List UInt8 :=
  match k with
  | .posixShell =>
    let (noBreak, words) := match args with
      | "-n" :: rest => (true, rest)
      | _ => (false, args)
    let text := " ".intercalate words
    let (bytes, stopped, _, _) := expandArgEscapes .posixShell (text.length + 1) text.toList
    bytes ++ (if noBreak || stopped then [] else [10])
  | _ =>
    let opts := args.takeWhile isEchoOptions
    let words := args.drop opts.length
    let noBreak := opts.any fun o => o.toList.contains 'n'
    let escapes := (opts.flatMap fun o => o.toList.filter fun c => c == 'e' || c == 'E').getLast? == some 'e'
    let text := " ".intercalate words
    if escapes then
      let (bytes, stopped) := echoExpand (k == .bashShell) (text.length + 1) text.toList
      bytes ++ (if noBreak || stopped then [] else [10])
    else encode (text ++ if noBreak then "" else "\n")

end IacLint.Tools
