import IacLint.Yaml.Scan
import IacLint.Yaml.Resolve
import IacLint.Number.Parse
import IacLint.Data.Value.Text
import IacLint.Text.Case

/-!
# Values of scalars

How the text of a scalar becomes a value, by its tag. The readers follow the integer
and floating point constructors of text, so their complaints are those constructors'
complaints, and they fail as those do: an empty number has no first character to
look at, an unknown truth word is a missing key, and a timestamp that does not have
the timestamp's shape has no groups.

* Integers: low lines are dropped, then a sign; `0` alone is zero, `0b` and `0x` name
  binary and hexadecimal, another leading `0` octal, and `:` separates base-60 digits.
* Floating point numbers: low lines are dropped and the text taken in lower case; then
  a sign, `.inf`, `.nan` (one shared not-a-number), base-60 digits, or a decimal.
* Binary: base64 text, read leniently: characters outside the alphabet are skipped,
  and padding ends the data.
* Timestamps: a date, or a date and time with an optional zone; the fields are checked
  as calendar fields, the zone first.

## Main definitions

* `readYamlInt`, `readYamlFloat`, `readYamlBool` — numbers and truth values
* `decodeBase64?` — lenient base64
* `readTimestamp` — dates and points in time
-/

namespace IacLint.Yaml

open IacLint.Data IacLint.Text Pattern

/-- A failure raised by a reader, with the kind and message it is raised with. -/
def raise (kind message : String) : Except LoadError α := .error (.raised kind message)

/-- The failure of looking at the first character of an empty text. -/
def emptyIndex : Except LoadError α := raise "IndexError" "string index out of range"

/-- An integer in a base, or the complaint about its text. -/
def intIn (s : String) (base : Nat) : Except LoadError Int :=
  match Number.readInt s base with
  | .ok n => .ok n
  | .error m => raise "ValueError" m

/-- A floating point number, or the complaint about its text. -/
def floatOf (s : String) : Except LoadError Float :=
  match Number.readFloat? s with
  | some x => .ok x
  | none => raise "ValueError" ("could not convert string to float: " ++ quote s)

/-- The sign a number's text starts with, and the text after it. -/
def splitSign (cs : List Char) : Int × List Char :=
  match cs with
  | '-' :: rest => (-1, rest)
  | '+' :: rest => (1, rest)
  | _ => (1, cs)

/-- Base-60 digits, most significant first, as one number. -/
def sexagesimal (digits : List Int) : Int := digits.foldl (fun acc d => acc * 60 + d) 0

/-- The integer a scalar of the integer tag stands for. -/
def readYamlInt (value : String) : Except LoadError Int := do
  let cs := value.toList.filter (· ≠ '_')
  if cs.isEmpty then emptyIndex
  let (sign, body) := splitSign cs
  let text := String.ofList body
  if text == "0" then return 0
  match body with
  | '0' :: 'b' :: rest => return sign * (← intIn (String.ofList rest) 2)
  | '0' :: 'x' :: rest => return sign * (← intIn (String.ofList rest) 16)
  | '0' :: _ => return sign * (← intIn text 8)
  | [] => emptyIndex
  | _ =>
    if body.contains ':' then
      let digits ← (splitOnChar text ':').mapM fun part => intIn part 10
      return sign * sexagesimal digits
    else return sign * (← intIn text 10)

/-- A floating point scalar: a number, or the not-a-number that every `.nan` stands
for (one value, so it is one mapping key however often it is written). -/
inductive FloatScalar where
  | number (x : Float)
  | sharedNaN

/-- Infinity. -/
def infinity : Float := Float.ofScientific 1 false 400

/-- Sums base-60 digits the way the floating point constructor does: from the least
significant digit, each times its power of 60, into an accumulator starting at zero. -/
def sexagesimalFloat (digits : List Float) : Float :=
  (digits.reverse.foldl (fun (acc : Float × Nat) d => (acc.1 + d * Float.ofNat acc.2, acc.2 * 60))
    (0.0, 1)).1

/-- The number a scalar of the floating point tag stands for. -/
def readYamlFloat (value : String) : Except LoadError FloatScalar := do
  let cs := (lower (String.ofList (value.toList.filter (· ≠ '_')))).toList
  if cs.isEmpty then emptyIndex
  let (sign, body) := splitSign cs
  let text := String.ofList body
  let signed (x : Float) : Float := if sign < 0 then -x else x
  if text == ".inf" then return .number (signed infinity)
  if text == ".nan" then return .sharedNaN
  if body.contains ':' then
    let digits ← (splitOnChar text ':').mapM floatOf
    return .number (signed (sexagesimalFloat digits))
  return .number (signed (← floatOf text))

/-- The truth words and their values. -/
def boolWords : List (String × Bool) :=
  [("yes", true), ("no", false), ("true", true), ("false", false), ("on", true), ("off", false)]

/-- The truth value a scalar of the truth tag stands for: its text in lower case must
be a truth word. -/
def readYamlBool (value : String) : Except LoadError Bool :=
  let key := lower value
  match boolWords.lookup key with
  | some b => .ok b
  | none => raise "KeyError" (quote key)

/-- The value of a base64 character. -/
def base64Value? (c : UInt8) : Option Nat :=
  let n := c.toNat
  if 65 ≤ n ∧ n ≤ 90 then some (n - 65)
  else if 97 ≤ n ∧ n ≤ 122 then some (n - 71)
  else if 48 ≤ n ∧ n ≤ 57 then some (n + 4)
  else if n = 43 then some 62
  else if n = 47 then some 63
  else none

/-- Decoding base64 from the state `(place in the quad, bits left over, pads seen)`:
characters outside the alphabet are skipped; a pad after the second character of a
quad that completes it ends the data. -/
def base64Loop : List UInt8 → Nat → Nat → Nat → List UInt8 → Option (List UInt8)
  | [], quad, _, _, out => if quad = 0 then some out.reverse else none
  | c :: rest, quad, left, pads, out =>
    if c.toNat = 61 then
      if quad ≥ 2 ∧ quad + (pads + 1) ≥ 4 then some out.reverse
      else base64Loop rest quad left (if quad ≥ 2 then pads + 1 else pads) out
    else
      match base64Value? c with
      | none => base64Loop rest quad left pads out
      | some v =>
        match quad with
        | 0 => base64Loop rest 1 v 0 out
        | 1 => base64Loop rest 2 (v % 16) 0 ((left * 4 + v / 16).toUInt8 :: out)
        | 2 => base64Loop rest 3 (v % 4) 0 ((left * 16 + v / 4).toUInt8 :: out)
        | _ => base64Loop rest 0 0 0 ((left * 64 + v).toUInt8 :: out)

/-- The bytes of base64 text read leniently, or `none` when the data ends inside a quad
without its padding. -/
def decodeBase64? (bs : List UInt8) : Option (List UInt8) := base64Loop bs 0 0 0 []

/-! ## Timestamps -/

/-- The shape of a timestamp, with its fields as numbered groups: 1 year, 2 month,
3 day, 4 hour, 5 minute, 6 second, 7 fraction, 8 zone, 9 zone sign, 10 zone hour,
11 zone minute. -/
def timestampFields : Pattern :=
  let twoDigits := chain [digit, digit]
  let oneOrTwo := chain [digit, opt digit]
  chain [
    .group 1 (chain [digit, digit, digit, digit]), char '-', .group 2 oneOrTwo,
    char '-', .group 3 oneOrTwo,
    opt (chain [
      choice [oneOf "Tt", oneOrMore (oneOf " \t")],
      .group 4 oneOrTwo, char ':', .group 5 twoDigits, char ':', .group 6 twoDigits,
      opt (chain [char '.', .group 7 (.many digit)]),
      opt (chain [.many (oneOf " \t"),
        .group 8 (choice [char 'Z',
          chain [.group 9 (oneOf "-+"), .group 10 oneOrTwo,
            opt (chain [char ':', .group 11 twoDigits])]])])])]

/-- The number written by ASCII digits. -/
def digitsValue (s : String) : Nat :=
  s.toList.foldl (fun acc c => acc * 10 + (c.toNat - '0'.toNat)) 0

/-- A calendar field out of range, raised as a value error. -/
def checked (problem : Option String) (v : Value) : Except LoadError Value :=
  match problem with
  | some m => raise "ValueError" m
  | none => .ok v

/-- The complaint about a zone offset of a day or more. -/
def offsetComplaint (minutes : Int) : String :=
  "offset must be a timedelta strictly between -timedelta(hours=24) and timedelta(hours=24), not " ++
    spanLiteral (minutes * 60) ++ "."

/-- The date or point in time a scalar of the timestamp tag stands for. -/
def readTimestamp (value : String) : Except LoadError Value := do
  let some caps := timestampFields.fullMatch? value
    | raise "AttributeError" "'NoneType' object has no attribute 'groupdict'"
  let field (k : Nat) : Nat := digitsValue ((caps.get? k).getD "")
  let date : Date := ⟨field 1, field 2, field 3⟩
  match caps.get? 4 with
  | none => checked date.check (.date date)
  | some _ =>
    let fraction := (caps.get? 7).getD ""
    let micro := if fraction.isEmpty then 0
      else digitsValue (String.ofList ((fraction.toList.take 6) ++ List.replicate (6 - fraction.length) '0'))
    let offset : Option Int ← match caps.get? 9 with
      | some s =>
        let m : Int := field 10 * 60 + field 11
        let m := if s == "-" then -m else m
        if m ≤ -1440 ∨ m ≥ 1440 then raise "ValueError" (offsetComplaint m)
        else pure (some m)
      | none => pure (if (caps.get? 8).isSome then some 0 else none)
    let t : DateTime := ⟨date, field 4, field 5, field 6, micro, offset⟩
    checked t.check (.time t)

end IacLint.Yaml
