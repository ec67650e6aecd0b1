import IacLint.Text.Blank
import IacLint.Text.Digit
import IacLint.Number.Decimal
import IacLint.Text.Quoted

/-!
# Reading numbers from text

A decimal number in text: an optional sign, then `inf`, `infinity` or `nan` in any
case, or digits with an optional point and fraction and an optional exponent. A low
line may stand between two digits. Before reading, every decimal digit of another
script counts as the same digit in ASCII and every other blank as a space, and spaces
at both ends are dropped. Reading rounds to the nearest double, halves to even.

## Main definitions

* `ofDecimalParts` — the double nearest to `m · 10^e`
* `readFloat?` — reads a decimal number, or fails
* `readInt` — reads an integer in a base, or says why not
-/

namespace IacLint.Number

open IacLint.Text

/-- The double nearest to `±m · 10^e`. Exponents far outside the range of doubles go
straight to infinity or zero. -/
def ofDecimalParts (neg : Bool) (m : Nat) (e : Int) : Float :=
  let size : Int := (natDigits m).length
  let x : Float :=
    if m = 0 then 0.0
    else if e + size > 400 then Float.ofScientific 1 false 400
    else if e + size < -400 then 0.0
    else if e ≥ 0 then Float.ofScientific m false e.toNat
    else Float.ofScientific m true (-e).toNat
  if neg then -x else x

/-- The ASCII character a character of the text counts as: ASCII stands for itself,
another blank for a space, a digit of another script for its ASCII digit. -/
def asciiForm? (c : Char) : Option Char :=
  if c.toNat < 128 then some c
  else if isBlank c then some ' '
  else (decimalValue? c).map fun d => Char.ofNat ('0'.toNat + d)

/-- The ASCII blanks that may surround a number. -/
def isAsciiBlank (c : Char) : Bool :=
  c = ' ' || c = '\t' || c = '\n' || c = '\x0b' || c = '\x0c' || c = '\r'

/-- Whether every low line stands between two digits. -/
def lowLinesBetweenDigits : List Char → Bool
  | a :: '_' :: b :: rest => a.isDigit && b.isDigit && lowLinesBetweenDigits (b :: rest)
  | '_' :: _ => false
  | [_, '_'] => false
  | _ :: rest => lowLinesBetweenDigits rest
  | [] => true

/-- Reads `[eE][+-]?digits` to its exponent, requiring all of the text be used. -/
def readExponent? : List Char → Option Int
  | [] => some 0
  | c :: rest =>
    if c = 'e' ∨ c = 'E' then
      let (neg, ds) := match rest with
        | '+' :: ds => (false, ds)
        | '-' :: ds => (true, ds)
        | ds => (false, ds)
      if ds ≠ [] ∧ ds.all Char.isDigit then
        let n : Int := (String.ofList ds).toNat!
        some (if neg then -n else n)
      else none
    else none

/-- Reads an unsigned decimal number `digits [. digits] [exponent]` with at least one
digit before the exponent. -/
def readUnsigned? (cs : List Char) : Option (Nat × Int) :=
  let whole := cs.takeWhile Char.isDigit
  let rest := cs.dropWhile Char.isDigit
  let (frac, rest) := match rest with
    | '.' :: r => (r.takeWhile Char.isDigit, r.dropWhile Char.isDigit)
    | r => ([], r)
  if whole = [] ∧ frac = [] then none
  else
    (readExponent? rest).map fun e =>
      ((String.ofList (whole ++ frac)).toNat!, e - frac.length)

/-- Reads an optionally signed number, infinity or not-a-number. -/
def readSigned? (cs : List Char) : Option Float :=
  let (neg, body) := match cs with
    | '+' :: r => (false, r)
    | '-' :: r => (true, r)
    | r => (false, r)
  let word := String.ofList (body.map Char.toLower)
  if word = "inf" ∨ word = "infinity" then
    some (if neg then -(Float.ofScientific 1 false 400) else Float.ofScientific 1 false 400)
  else if word = "nan" then some (0.0 / 0.0)
  else (readUnsigned? body).map fun (m, e) => ofDecimalParts neg m e

/-- Reads a decimal number from text, or fails. -/
def readFloat? (s : String) : Option Float :=
  match s.toList.mapM asciiForm? with
  | none => none
  | some cs =>
    let cs := ((cs.dropWhile isAsciiBlank).reverse.dropWhile isAsciiBlank).reverse
    if lowLinesBetweenDigits cs then readSigned? (cs.filter (· ≠ '_')) else none

/-- The value of an ASCII digit or letter as a digit: `0`–`9`, then the letters from 10
on, in either case. -/
def digitValue? (c : Char) : Option Nat :=
  if '0' ≤ c ∧ c ≤ '9' then some (c.toNat - '0'.toNat)
  else if 'a' ≤ c ∧ c ≤ 'z' then some (c.toNat - 'a'.toNat + 10)
  else if 'A' ≤ c ∧ c ≤ 'Z' then some (c.toNat - 'A'.toNat + 10)
  else none

/-- Whether `c` is a digit of `base`. -/
def isDigitOf (base : Nat) (c : Char) : Bool :=
  match digitValue? c with
  | some d => d < base
  | none => false

/-- The letter that may follow a `0` to name a base: `b`, `o` or `x`. -/
def baseLetter? (base : Nat) : Option Char :=
  if base = 2 then some 'b' else if base = 8 then some 'o' else if base = 16 then some 'x' else none

/-- Drops the prefix naming the base (`0x` and the like, in either case), and a low line
after it. -/
def dropBasePrefix (base : Nat) (cs : List Char) : List Char :=
  match baseLetter? base, cs with
  | some l, '0' :: c :: rest =>
    if c.toLower = l then
      match rest with
      | '_' :: r => r
      | r => r
    else cs
  | _, _ => cs

/-- The most digits a decimal integer may have in text. -/
def maxIntDigits : Nat := 4300

/-- Reads an integer in `base` from text, the way the integer constructor of text does:
blanks around (any blank; digits of other scripts count as ASCII digits), an optional
sign, the optional prefix naming the base, then digits of the base with low lines only
between digits. Gives the value, or the complaint about the text. A decimal number of
more than `maxIntDigits` digits is refused. -/
def readInt (s : String) (base : Nat) : Except String Int :=
  let complaint := "invalid literal for int() with base " ++ toString base ++ ": " ++
    String.ofList ((quote s).toList.take 200)
  match s.toList.mapM asciiForm? with
  | none => .error complaint
  | some cs =>
    let cs := ((cs.dropWhile isAsciiBlank).reverse.dropWhile isAsciiBlank).reverse
    let (neg, body) := match cs with
      | '+' :: r => (false, r)
      | '-' :: r => (true, r)
      | r => (false, r)
    let body := dropBasePrefix base body
    let run := body.takeWhile fun c => isDigitOf base c || c = '_'
    let digits := run.filter (· ≠ '_')
    if base ≠ 2 ∧ base ≠ 4 ∧ base ≠ 8 ∧ base ≠ 16 ∧ base ≠ 32 ∧ digits.length > maxIntDigits then
      .error ("Exceeds the limit (" ++ toString maxIntDigits ++
        " digits) for integer string conversion: value has " ++ toString digits.length ++
        " digits; use sys.set_int_max_str_digits() to increase the limit")
    else if body.isEmpty || !body.all (fun c => isDigitOf base c || c = '_') then .error complaint
    else if body.head? = some '_' || body.getLast? = some '_' ||
        (body.zip body.tail).any (fun p => p.1 = '_' ∧ p.2 = '_') then .error complaint
    else
      let n := digits.foldl (fun acc c => acc * base + (digitValue? c).getD 0) 0
      .ok (if neg then -(n : Int) else n)

/-- Whether an integer has more than `maxIntDigits` decimal digits, too many to be
written as text. -/
def tooLongToWrite (n : Int) : Bool := decide (n.natAbs ≥ Nat.pow 10 maxIntDigits)

/-- The complaint about writing an integer of too many digits as text. -/
def writeLimitComplaint : String :=
  "Exceeds the limit (" ++ toString maxIntDigits ++
    " digits) for integer string conversion; use sys.set_int_max_str_digits() to increase the limit"

end IacLint.Number
