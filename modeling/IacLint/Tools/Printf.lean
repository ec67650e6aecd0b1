import IacLint.Text.Utf8
import IacLint.Number.Conversion
import IacLint.Number.Parse

/-!
# Formatted output

`printf FORMAT ARGS…` writes its arguments by a format. In the format a backslash
starts an escape and `%` a conversion: flags (`-+ #0`), a width and a precision
(digits, or `*` to take them from the arguments), then the conversion letter —
`s` text, `b` text with escapes, `c` its first byte, `d i` signed and `o u x X`
unsigned integers, `f F e E g G a A` floating-point numbers, `%%` a percent sign. The
format is used again while arguments remain and the last pass used some; missing
arguments count as empty text and zero.

Three programs of this name differ in details, each given by a `PrintfKind`:

* the POSIX shell's built-in knows the escapes `\\ \a \b \e \f \n \r \t \v` and
  octal ones, reads no length modifiers, and complains `expected numeric value`;
* the larger shell's built-in also knows `\E \" \' \? \x \u \U`, skips length
  modifiers, has `%q`, says `invalid number`, and only warns when a number is out
  of range;
* the utility knows `\" \c \x \u \U`, where `\c` ends all output, skips length
  modifiers, has `%q`, and quotes the arguments it complains about.

Integers are 64-bit: a number out of range is clamped, and a negative number given to
an unsigned conversion wraps. An argument that starts with a quote stands for the
code of the byte after it. Text is counted in bytes for widths and precisions.

## Main definitions

* `PrintfKind` — which `printf`
* `Printed` — what a run of `printf` wrote and said
* `formatOutput` — formats arguments
-/

namespace IacLint.Tools

open IacLint.Text IacLint.Number

/-- Which `printf`: the POSIX shell's built-in, the larger shell's, or the utility. -/
inductive PrintfKind where
  | posixShell
  | bashShell
  | utility
  deriving Inhabited, BEq

/-- The value of an octal digit. -/
def octalDigit? (c : Char) : Option Nat :=
  if '0' ≤ c ∧ c ≤ '7' then some (c.toNat - '0'.toNat) else none

/-- The value of a hexadecimal digit. -/
def hexDigit? (c : Char) : Option Nat :=
  if '0' ≤ c ∧ c ≤ '9' then some (c.toNat - '0'.toNat)
  else if 'a' ≤ c ∧ c ≤ 'f' then some (c.toNat - 'a'.toNat + 10)
  else if 'A' ≤ c ∧ c ≤ 'F' then some (c.toNat - 'A'.toNat + 10)
  else none

/-- Up to `n` digits of a base: their value, and how many were read. -/
def readDigitsIn (digit : Char → Option Nat) (base : Nat) : Nat → List Char → Nat × Nat
  | 0, _ => (0, 0)
  | _ + 1, [] => (0, 0)
  | n + 1, c :: rest =>
    match digit c with
    | some d =>
      let (v, k) := readDigitsIn digit base n rest
      (d * Nat.pow base k + v, k + 1)
    | none => (0, 0)

/-- The byte of a one-letter escape that every `printf` knows. -/
def commonLetter? (c : Char) : Option UInt8 :=
  match c with
  | '\\' => some 92
  | 'a' => some 7
  | 'b' => some 8
  | 'e' => some 27
  | 'f' => some 12
  | 'n' => some 10
  | 'r' => some 13
  | 't' => some 9
  | 'v' => some 11
  | _ => none

/-- The byte of a one-letter escape of a `printf`, in its format or (`inArg`) in a `%b`
argument. -/
def letterEscape? (k : PrintfKind) (inArg : Bool) (c : Char) : Option UInt8 :=
  match commonLetter? c with
  | some b => some b
  | none =>
    match k, c with
    | .bashShell, 'E' => some 27
    | .bashShell, '"' => if inArg then none else some 34
    | .bashShell, '\'' => if inArg then none else some 39
    | .bashShell, '?' => if inArg then none else some 63
    | .utility, '"' => some 34
    | _, _ => none

/-- What an escape gives: its bytes, the text after it, whether it ends all output, and
a complaint about it, which is fatal when `fatal`. -/
structure Escape where
  bytes : List UInt8
  rest : List Char
  stop : Bool := false
  problem : Option String := none
  fatal : Bool := false

/-- The escape after a backslash, in the format or (`inArg`) in a `%b` argument. -/
def readEscape (k : PrintfKind) (inArg : Bool) (cs : List Char) : Escape :=
  match cs with
  | [] => { bytes := [92], rest := [] }
  | c :: rest =>
    let octal (digits : List Char) : Escape :=
      let (v, n) := readDigitsIn octalDigit? 8 3 digits
      { bytes := [(v % 256).toUInt8], rest := digits.drop n }
    if c = 'c' && (inArg || k == .utility) then { bytes := [], rest, stop := true }
    else if c = '0' && inArg then
      match k, rest with
      | .posixShell, d :: _ => if (octalDigit? d).isSome then octal rest else octal cs
      | .posixShell, [] => octal cs
      | _, _ => octal rest
    else if (octalDigit? c).isSome then octal cs
    else
      match letterEscape? k inArg c with
      | some b => { bytes := [b], rest }
      | none =>
        if k != .posixShell && c = 'x' then
          let (v, n) := readDigitsIn hexDigit? 16 2 rest
          if n = 0 then
            match k with
            | .utility => { bytes := [], rest, problem := some "missing hexadecimal number in escape",
                            fatal := true }
            | _ => { bytes := [92, 120], rest, problem := some "missing hex digit for \\x" }
          else { bytes := [v.toUInt8], rest := rest.drop n }
        else if k != .posixShell && (c = 'u' || c = 'U') then
          let size := if c = 'u' then 4 else 8
          let (v, n) := readDigitsIn hexDigit? 16 size rest
          if n = 0 || (k == .utility && n < size) then
            match k with
            | .utility => { bytes := [], rest, problem := some "missing hexadecimal number in escape",
                            fatal := true }
            | _ => { bytes := [92, c.toNat.toUInt8], rest }
          else { bytes := encodeChar (Char.ofNat v), rest := rest.drop n }
        else if k == .utility then { bytes := 92 :: encodeChar c, rest }
        else { bytes := [92], rest := cs }

/-- A text with the escapes of `%b` expanded: the bytes, whether `\c` ended it, and the
complaints, the last one fatal when `fatal`. -/
def expandArgEscapes (k : PrintfKind) : Nat → List Char → List UInt8 × Bool × List String × Bool
  | 0, _ => ([], false, [], false)
  | _ + 1, [] => ([], false, [], false)
  | fuel + 1, '\\' :: rest =>
    let e := readEscape k true rest
    if e.stop || e.fatal then (e.bytes, e.stop, e.problem.toList, e.fatal)
    else
      let (more, stop, problems, fatal) := expandArgEscapes k fuel e.rest
      (e.bytes ++ more, stop, e.problem.toList ++ problems, fatal)
  | fuel + 1, c :: rest =>
    let (more, stop, problems, fatal) := expandArgEscapes k fuel rest
    (encodeChar c ++ more, stop, problems, fatal)

/-- How reading a number from an argument went. -/
inductive NumberTrouble where
  /-- No number at the start. -/
  | noDigits
  /-- Text after the number. -/
  | trailing
  /-- Out of range, clamped. -/
  | range
  deriving Inhabited, BEq

/-- The blanks a number may start with. -/
def isNumberBlank (c : Char) : Bool :=
  c = ' ' || c = '\t' || c = '\n' || c = '\x0b' || c = '\x0c' || c = '\r'

/-- The largest 64-bit signed integer. -/
def maxSigned : Int := Int.pow 2 63 - 1

/-- The integer at the start of an argument, as C reads one in base 0: blanks, a sign,
then hexadecimal after `0x`, octal after `0`, decimal otherwise. Gives the value (the
digits read, clamped to 64 bits signed, or taken modulo `2^64` when `unsigned`) and
the trouble, if any. -/
def readInteger (unsigned : Bool) (a : String) : Int × Option NumberTrouble :=
  let cs := a.toList.dropWhile isNumberBlank
  let (neg, body) := match cs with
    | '-' :: r => (true, r)
    | '+' :: r => (false, r)
    | r => (false, r)
  let (base, digits) : Nat × List Char := match body with
    | '0' :: x :: d :: r =>
      if (x = 'x' || x = 'X') && (hexDigit? d).isSome then (16, d :: r) else (8, body)
    | '0' :: _ => (8, body)
    | _ => (10, body)
  let isDigit (c : Char) : Bool := match hexDigit? c with
    | some v => v < base
    | none => false
  let ds := digits.takeWhile isDigit
  if ds.isEmpty then (0, if a.isEmpty then none else some .noDigits)
  else
    let mag : Nat := ds.foldl (fun acc c => acc * base + (hexDigit? c).getD 0) 0
    let v : Int := if neg then -(mag : Int) else mag
    let after := digits.drop ds.length
    let (v, range) :=
      if unsigned then
        if mag ≥ Nat.pow 2 64 then (Int.pow 2 64 - 1, true)
        else (if neg then (Int.pow 2 64 - (mag : Int)) % Int.pow 2 64 else v, false)
      else if v > maxSigned then (maxSigned, true)
      else if v < -maxSigned - 1 then (-maxSigned - 1, true)
      else (v, false)
    (v, if !after.isEmpty then some .trailing else if range then some .range else none)

/-- Reads a decimal or hexadecimal floating-point number at the start of some
characters, as C does: the value and the characters read (none when there is no
number). -/
def readCFloat (cs : List Char) : Float × Nat :=
  let lead := (cs.takeWhile isNumberBlank).length
  let body := cs.drop lead
  let (neg, sgn, body) := match body with
    | '-' :: r => (true, 1, r)
    | '+' :: r => (false, 1, r)
    | r => (false, 0, r)
  let lower := (body.take 8).map Char.toLower
  let signed (x : Float) : Float := if neg then -x else x
  if lower.take 8 == "infinity".toList then (signed (1 / 0), lead + sgn + 8)
  else if lower.take 3 == "inf".toList then (signed (1 / 0), lead + sgn + 3)
  else if lower.take 3 == "nan".toList then
    let after := body.drop 3
    let extra := match after with
      | '(' :: r =>
        let inside := r.takeWhile fun c => c.isAlphanum || c = '_'
        if (r.drop inside.length).head? == some ')' then inside.length + 2 else 0
      | _ => 0
    (signed (0 / 0), lead + sgn + 3 + extra)
  else
    match body with
    | '0' :: x :: r =>
      if x = 'x' || x = 'X' then
        let ip := r.takeWhile fun c => (hexDigit? c).isSome
        let r1 := r.drop ip.length
        let (fp, r2) := match r1 with
          | '.' :: more => let f := more.takeWhile fun c => (hexDigit? c).isSome; (some f, more.drop f.length)
          | _ => (none, r1)
        let fds := fp.getD []
        if ip.isEmpty && fds.isEmpty then (0, lead + sgn + 1)
        else
          let m := (ip ++ fds).foldl (fun acc c => acc * 16 + (hexDigit? c).getD 0) 0
          let (e, ek) : Int × Nat := match r2 with
            | p :: more =>
              if p = 'p' || p = 'P' then
                let (eneg, esg, ebody) := match more with
                  | '-' :: q => (true, 1, q)
                  | '+' :: q => (false, 1, q)
                  | q => (false, 0, q)
                let eds := ebody.takeWhile Char.isDigit
                if eds.isEmpty then (0, 0)
                else
                  let ev : Int := (String.ofList eds).toNat!
                  (if eneg then -ev else ev, 1 + esg + eds.length)
              else (0, 0)
            | [] => (0, 0)
          let used := 2 + ip.length + (match fp with | some f => f.length + 1 | none => 0) + ek
          let x := Float.scaleB (Float.ofNat m) (e - 4 * fds.length)
          (signed x, lead + sgn + used)
      else decimal neg lead sgn body
    | _ => decimal neg lead sgn body
where
  /-- A decimal number: digits, a point and digits, an exponent. -/
  decimal (neg : Bool) (lead sgn : Nat) (body : List Char) : Float × Nat :=
    let ip := body.takeWhile Char.isDigit
    let r1 := body.drop ip.length
    let (fds, hasPoint, r2) := match r1 with
      | '.' :: more => let f := more.takeWhile Char.isDigit; (f, true, more.drop f.length)
      | _ => ([], false, r1)
    if ip.isEmpty && fds.isEmpty then (0, 0)
    else
      let (e, ek) : Int × Nat := match r2 with
        | p :: more =>
          if p = 'e' || p = 'E' then
            let (eneg, esg, ebody) := match more with
              | '-' :: q => (true, 1, q)
              | '+' :: q => (false, 1, q)
              | q => (false, 0, q)
            let eds := ebody.takeWhile Char.isDigit
            if eds.isEmpty then (0, 0)
            else
              let ev : Int := (String.ofList eds).toNat!
              (if eneg then -ev else ev, 1 + esg + eds.length)
          else (0, 0)
        | [] => (0, 0)
      let m := (ip ++ fds).foldl (fun acc c => acc * 10 + (c.toNat - '0'.toNat)) 0
      let used := ip.length + (if hasPoint then 1 + fds.length else 0) + ek
      (ofDecimalParts neg m (e - fds.length), lead + sgn + used)

/-- The number of an argument of a floating-point conversion and its trouble. -/
def readFloatArg (a : String) : Float × Option NumberTrouble :=
  let cs := a.toList
  let (x, n) := readCFloat cs
  if a.isEmpty then (0, none)
  else if n = 0 then (0, some .noDigits)
  else if n < cs.length then (x, some .trailing)
  else (x, none)

/-- A conversion: flags, width, precision and letter, and its text from the `%`. -/
structure Conversion where
  flags : List Char := []
  width : Option Int := none
  precision : Option Int := none
  letter : Char := 's'
  text : String := ""

/-- What a run of `printf` wrote and said. -/
structure Printed where
  bytes : List UInt8 := []
  /-- The complaints, in order, without the program's name. -/
  complaints : List String := []
  status : Nat := 0
  /-- Whether the output ended early (by `\c` or a fatal error). -/
  stopped : Bool := false
  deriving Inhabited

namespace Printed

/-- Adds bytes to the output. -/
def add (p : Printed) (bs : List UInt8) : Printed := { p with bytes := p.bytes ++ bs }

/-- Adds a complaint that sets the status to 1. -/
def fail (p : Printed) (message : String) : Printed :=
  { p with complaints := p.complaints ++ [message], status := 1 }

end Printed

/-- The complaint about an argument that is not wholly a number, and whether it fails
the run. -/
def numberComplaint (k : PrintfKind) (a : String) : NumberTrouble → String × Bool
  | .noDigits =>
    match k with
    | .posixShell => (a ++ ": expected numeric value", true)
    | .bashShell => (a ++ ": " ++ bashInvalid a, true)
    | .utility => (quote a ++ ": expected a numeric value", true)
  | .trailing =>
    match k with
    | .posixShell => (a ++ ": not completely converted", true)
    | .bashShell => (a ++ ": " ++ bashInvalid a, true)
    | .utility => (quote a ++ ": value not completely converted", true)
  | .range =>
    match k with
    | .posixShell => (a ++ ": Numerical result out of range", true)
    | .bashShell => ("warning: " ++ a ++ ": Numerical result out of range", false)
    | .utility => (quote a ++ ": Numerical result out of range", true)
where
  /-- How the larger shell names a bad number. -/
  bashInvalid (a : String) : String :=
    match a.toList with
    | '0' :: d :: _ => if d.isDigit then "invalid octal number"
      else if d = 'x' then "invalid hex number" else "invalid number"
    | _ => "invalid number"
  /-- An argument in single quotes. -/
  quote (a : String) : String := "'" ++ a ++ "'"

/-- Takes the next argument, empty when none is left. -/
def nextArg (args : List String) : String × List String × Bool :=
  match args with
  | a :: more => (a, more, true)
  | [] => ("", [], false)

/-- Takes an integer argument: its value, what is left, and the output with any
complaint added. -/
def integerArg (k : PrintfKind) (unsigned : Bool) (args : List String) (p : Printed) :
    Int × List String × Printed :=
  let (a, rest, _) := nextArg args
  match a.toList with
  | q :: more =>
    if q = '\'' || q = '"' then
      let v : Int := match more with
        | c :: _ => ((encodeChar c).headD 0).toNat
        | [] => 0
      let p := if k == .utility && more.length > 1 then
          { p with complaints := p.complaints ++
              ["warning: " ++ String.ofList (more.drop 1) ++
                ": character(s) following character constant have been ignored"] }
        else p
      (v, rest, p)
    else
      let (v, trouble) := readInteger unsigned a
      match trouble with
      | some t =>
        let (m, failing) := numberComplaint k a t
        (v, rest, if failing then p.fail m else { p with complaints := p.complaints ++ [m] })
      | none => (v, rest, p)
  | [] => (0, rest, p)

/-- Takes a floating-point argument, as `integerArg` does. -/
def floatArg (k : PrintfKind) (args : List String) (p : Printed) : Float × List String × Printed :=
  let (a, rest, _) := nextArg args
  match a.toList with
  | q :: more =>
    if q = '\'' || q = '"' then
      let v : Nat := match more with
        | c :: _ => ((encodeChar c).headD 0).toNat
        | [] => 0
      (Float.ofNat v, rest, p)
    else
      let (v, trouble) := readFloatArg a
      match trouble with
      | some t =>
        let (m, failing) := numberComplaint k a t
        (v, rest, if failing then p.fail m else { p with complaints := p.complaints ++ [m] })
      | none => (v, rest, p)
  | [] => (0, rest, p)

/-- Pads a body to the width of a conversion: on the right with `-`, with zeros after
the sign and base prefix when `zeros` (the `0` flag where it applies), with spaces in
front otherwise. `prefixLength` bytes of the body are sign and prefix. -/
def pad (c : Conversion) (body : List UInt8) (zeros : Bool) (prefixLength : Nat) : List UInt8 :=
  let w := (c.width.getD 0).natAbs
  let left := c.flags.contains '-' || (c.width.getD 0) < 0
  let fill := w - body.length
  if fill = 0 then body
  else if left then body ++ List.replicate fill 32
  else if zeros && c.flags.contains '0' then
    body.take prefixLength ++ List.replicate fill 48 ++ body.drop prefixLength
  else List.replicate fill 32 ++ body

/-- The sign written before a number: `-` when negative, else `+` or a space when the
flags ask for one. -/
def signText (c : Conversion) (neg : Bool) : String :=
  if neg then "-" else if c.flags.contains '+' then "+" else if c.flags.contains ' ' then " " else ""

/-- An integer by a conversion `d i o u x X`. -/
def integerText (c : Conversion) (v : Int) : List UInt8 :=
  let base := match c.letter with
    | 'o' => 8
    | 'x' | 'X' => 16
    | _ => 10
  let signed := c.letter = 'd' || c.letter = 'i'
  let mag := v.natAbs
  let precision := c.precision.bind fun p => if p < 0 then none else some p.toNat
  let raw := if precision == some 0 && mag = 0 then ""
    else
      let s := String.ofList (Nat.toDigits base mag)
      if c.letter = 'X' then s.toUpper else s
  let digits := String.ofList (List.replicate ((precision.getD 0) - raw.length) '0') ++ raw
  let alt := c.flags.contains '#'
  let digits := if alt && c.letter = 'o' && !digits.startsWith "0" then "0" ++ digits else digits
  let pre := (if signed then signText c (v < 0) else "") ++
    (if alt && mag ≠ 0 && c.letter = 'x' then "0x" else if alt && mag ≠ 0 && c.letter = 'X' then "0X" else "")
  pad c (encode (pre ++ digits)) precision.isNone pre.length

/-- A floating-point number by a conversion `f F e E g G a A`. -/
def floatText (c : Conversion) (x : Float) : List UInt8 :=
  let upper := c.letter.isUpper
  let precision := c.precision.bind fun p => if p < 0 then none else some p.toNat
  let alt := c.flags.contains '#'
  match classify x with
  | .nan =>
    let neg := x.toBits.toNat / Nat.pow 2 63 % 2 = 1
    let s := signText c neg ++ (if upper then "NAN" else "nan")
    pad c (encode s) false 0
  | .inf neg =>
    let s := signText c neg ++ (if upper then "INF" else "inf")
    pad c (encode s) false 0
  | .finite b =>
    let p := precision.getD 6
    let body := match c.letter with
      | 'f' | 'F' => b.fixedText p alt
      | 'e' | 'E' => b.scientificText p upper alt
      | 'g' | 'G' => b.generalFormText p upper alt
      | _ => b.hexText precision upper
    let sign := signText c b.neg
    let pre := sign ++ (if c.letter = 'a' then "0x" else if c.letter = 'A' then "0X" else "")
    let body := if c.letter = 'a' || c.letter = 'A' then String.ofList (body.toList.drop 2) else body
    pad c (encode (pre ++ body)) true pre.length

/-- Whether a character is safe unquoted for the shell. -/
def isShellSafe (c : Char) : Bool :=
  c.isAlphanum || "_-./=+:,@%^".toList.contains c

/-- Text quoted for reuse as shell input, as the larger shell's `%q` writes it:
special characters behind backslashes. -/
def backslashQuoted (s : String) : String :=
  if s.isEmpty then "''"
  else String.join (s.toList.map fun c =>
    if isShellSafe c || c.toNat ≥ 128 then String.ofList [c]
    else if c = '\n' then "$'\\n'"
    else if c = '\t' then "$'\\t'"
    else "\\" ++ String.ofList [c])

/-- Text quoted for reuse as shell input, as the utility's `%q` writes it: in single
quotes when it needs any. -/
def singleQuoted (s : String) : String :=
  if s.isEmpty then "''"
  else if s.toList.all isShellSafe then s
  else "'" ++ String.join (s.toList.map fun c => if c = '\'' then "'\\''" else String.ofList [c]) ++ "'"

/-- The length modifiers a kind of `printf` skips. -/
def lengthModifiers (k : PrintfKind) : List Char :=
  match k with
  | .posixShell => []
  | .bashShell => "hlLqjzt".toList
  | .utility => "hlLjzt".toList

/-- The conversion letters of a kind of `printf`. -/
def conversionLetters (k : PrintfKind) : List Char :=
  "diouxXfFeEgGaAcsb".toList ++ (if k == .posixShell then [] else ['q'])

/-- Reads the flags, width and precision of a conversion after its `%`, taking `*`
values from the arguments: the conversion without its letter, the format after it, the
arguments left and the output with complaints. -/
def readConversion (k : PrintfKind) (cs : List Char) (args : List String) (p : Printed) :
    Conversion × List Char × List String × Printed :=
  let flagChars := if k == .utility then "-+ #0'".toList else "-+ #0".toList
  let flags := cs.takeWhile flagChars.contains
  let rest := cs.drop flags.length
  let (width, rest, args, p) : Option Int × List Char × List String × Printed := match rest with
    | '*' :: r =>
      let (v, args, p) := integerArg k false args p
      (some v, r, args, p)
    | r =>
      let ds := r.takeWhile Char.isDigit
      (if ds.isEmpty then none else some (String.ofList ds).toNat!, r.drop ds.length, args, p)
  let (precision, rest, args, p) : Option Int × List Char × List String × Printed := match rest with
    | '.' :: '*' :: r =>
      let (v, args, p) := integerArg k false args p
      (some v, r, args, p)
    | '.' :: r =>
      let ds := r.takeWhile Char.isDigit
      (some (if ds.isEmpty then 0 else (String.ofList ds).toNat!), r.drop ds.length, args, p)
    | r => (none, r, args, p)
  let mods := rest.takeWhile (lengthModifiers k).contains
  let rest := rest.drop mods.length
  let used := cs.length - rest.length
  ({ flags, width, precision, text := "%" ++ String.ofList (cs.take used) }, rest, args, p)

/-- The complaint about a conversion letter a `printf` does not know; `letter` is none
at the end of the format. -/
def badConversion (k : PrintfKind) (c : Conversion) (letter : Option Char) : String :=
  match k, letter with
  | .posixShell, some l => c.text ++ String.ofList [l] ++ ": invalid directive"
  | .posixShell, none => "missing format character"
  | .bashShell, some l => "`" ++ String.ofList [l] ++ "': invalid format character"
  | .bashShell, none => "`" ++ c.text ++ "': missing format character"
  | .utility, some l => c.text ++ String.ofList [l] ++ ": invalid conversion specification"
  | .utility, none => c.text ++ ": invalid conversion specification"

/-- The status a bad conversion ends a run with. -/
def badConversionStatus (k : PrintfKind) : Nat :=
  match k with
  | .posixShell => 2
  | _ => 1

/-- One conversion with its letter: the bytes written, the arguments left, whether an
argument was there to use, and the output with complaints; `stop` when `\c` or a fatal
error ends all output. -/
def convert (k : PrintfKind) (c : Conversion) (args : List String) (p : Printed) :
    List UInt8 × List String × Bool × Printed × Bool :=
  let had := !args.isEmpty
  match c.letter with
  | 's' =>
    let (a, rest, _) := nextArg args
    let body := encode a
    let body := match c.precision with
      | some q => if q ≥ 0 then body.take q.toNat else body
      | none => body
    (pad c body false 0, rest, had, p, false)
  | 'q' =>
    let (a, rest, _) := nextArg args
    let q := if k == .bashShell then backslashQuoted a else singleQuoted a
    (pad c (encode q) false 0, rest, had, p, false)
  | 'b' =>
    let (a, rest, _) := nextArg args
    let (body, stop, problems, fatal) := expandArgEscapes k (a.length + 1) a.toList
    let body := match c.precision with
      | some q => if q ≥ 0 then body.take q.toNat else body
      | none => body
    let p := problems.foldl (fun p m => p.fail m) p
    (pad c body false 0, rest, had, p, stop || fatal)
  | 'c' =>
    let (a, rest, _) := nextArg args
    let b := (encode a).headD 0
    (pad c [b] false 0, rest, had, p, false)
  | 'd' | 'i' =>
    let (v, rest, p) := integerArg k false args p
    (integerText c v, rest, had, p, false)
  | 'o' | 'u' | 'x' | 'X' =>
    let (v, rest, p) := integerArg k true args p
    (integerText c v, rest, had, p, false)
  | _ =>
    let (x, rest, p) := floatArg k args p
    (floatText c x, rest, had, p, false)

/-- One pass of the format over the arguments: the output so far with this pass added,
the arguments left, and whether the pass used any. -/
def formatPass (k : PrintfKind) : Nat → List Char → List String → Printed → Printed × List String × Bool
  | 0, _, args, p => (p, args, false)
  | _ + 1, [], args, p => (p, args, false)
  | fuel + 1, '\\' :: rest, args, p =>
    let e := readEscape k false rest
    let p := p.add e.bytes
    let p := match e.problem with
      | some m => p.fail m
      | none => p
    if e.stop || e.fatal then ({ p with stopped := true }, args, false)
    else formatPass k fuel e.rest args p
  | fuel + 1, '%' :: '%' :: rest, args, p => formatPass k fuel rest args (p.add [37])
  | fuel + 1, '%' :: rest, args, p =>
    let before := args.length
    let (c, rest, args, p) := readConversion k rest args p
    match rest with
    | l :: more =>
      if (conversionLetters k).contains l then
        let (out, args, had, p, stop) := convert k { c with letter := l } args p
        let p := p.add out
        if stop then ({ p with stopped := true }, args, had)
        else
          let (p, left, usedMore) := formatPass k fuel more args p
          (p, left, had || args.length < before || usedMore)
      else
        let p := p.fail (badConversion k c (some l))
        ({ p with status := badConversionStatus k, stopped := true }, args, false)
    | [] =>
      let p := p.fail (badConversion k c none)
      ({ p with status := badConversionStatus k, stopped := true }, args, false)
  | fuel + 1, c :: rest, args, p => formatPass k fuel rest args (p.add (encodeChar c))

/-- Formats the arguments by the format, using it again while arguments remain and the
last pass used some. -/
def formatOutput (k : PrintfKind) (fmt : String) (args : List String) : Printed :=
  let fuel := fmt.length + 2
  let rec loop : Nat → List String → Printed → Printed
    | 0, _, p => p
    | n + 1, args, p =>
      let (p, left, used) := formatPass k fuel fmt.toList args p
      if p.stopped || left.isEmpty then p
      else if !used then
        if k == .utility then
          { p with complaints := p.complaints ++
              ["warning: ignoring excess arguments, starting with '" ++ left.headD "" ++ "'"] }
        else p
      else loop n left p
  loop (args.length + 1) args {}

end IacLint.Tools
