import IacLint.Data.Value
import IacLint.Number.Parse
import IacLint.Text.Surrogate

/-!
# Reading JSON text

JSON text read into data values: objects become mappings (a repeated key keeps its
first place and takes its last value), numbers with a fraction or an exponent become
doubles and other numbers integers, refused when they have more digits than integers may
have in text. Beyond strict JSON, the words `NaN`, `Infinity` and `-Infinity` stand for
those doubles. Inside strings, control characters are refused; an escaped surrogate that
does not pair up is kept as its stand-in. A text that starts with a byte-order mark is
refused, and so is anything after the value but blanks.

The reader has no limit on how deeply arrays and objects nest: its fuel grows with the
length of the text, so every text is read to the end. A reader with a bounded stack fails
on deeply nested text with a recursion error instead; that failure is not modelled, so it
is missing from the failures of loading a configuration.

## Main definitions

* `readValue` — reads one value from the front of a character list
* `ReadFailure` — why a text is not read
* `parse`, `parse?` — read a whole text
-/

namespace IacLint.Json

open IacLint.Data

/-- Whether `c` is a blank between JSON tokens. -/
def isSpace (c : Char) : Bool := c = ' ' || c = '\t' || c = '\n' || c = '\r'

/-- Drops leading blanks. -/
def skipSpace (cs : List Char) : List Char := cs.dropWhile isSpace

/-- Reads four hexadecimal digits. -/
def readHex4 : List Char → Option (Nat × List Char)
  | a :: b :: c :: d :: rest =>
    let ds := [a, b, c, d]
    if ds.all fun x => x.isDigit || ('a' ≤ x && x ≤ 'f') || ('A' ≤ x && x ≤ 'F') then
      some (ds.foldl (fun acc x =>
        acc * 16 + (if x.isDigit then x.toNat - 48
          else if 'a' ≤ x then x.toNat - 87 else x.toNat - 55)) 0, rest)
    else none
  | _ => none

/-- The character of an escaped code unit, pairing a high surrogate with a low one that
follows it as another escape; a surrogate that pairs with nothing is kept as its
stand-in. -/
def escapedUnit (u : Nat) (rest : List Char) : Char × List Char :=
  if 0xD800 ≤ u ∧ u < 0xDC00 then
    match rest with
    | '\\' :: 'u' :: more =>
      match readHex4 more with
      | some (w, after) =>
        if 0xDC00 ≤ w ∧ w < 0xE000 then
          (Char.ofNat (0x10000 + (u - 0xD800) * 0x400 + (w - 0xDC00)), after)
        else (Text.standIn u, rest)
      | none => (Text.standIn u, rest)
    | _ => (Text.standIn u, rest)
  else if 0xDC00 ≤ u ∧ u < 0xE000 then (Text.standIn u, rest)
  else (Char.ofNat u, rest)

/-- Reads the body of a string after its opening quote, up to the closing quote. -/
def readString (fuel : Nat) (cs acc : List Char) : Option (String × List Char) :=
  match fuel with
  | 0 => none
  | fuel + 1 =>
    match cs with
    | [] => none
    | '"' :: rest => some (String.ofList acc.reverse, rest)
    | '\\' :: c :: rest =>
      let simple : Option Char := match c with
        | '"' => some '"' | '\\' => some '\\' | '/' => some '/' | 'b' => some '\x08'
        | 'f' => some '\x0c' | 'n' => some '\n' | 'r' => some '\r' | 't' => some '\t'
        | _ => none
      match simple with
      | some e => readString fuel rest (e :: acc)
      | none =>
        if c = 'u' then
          match readHex4 rest with
          | some (u, after) =>
            let (ch, after) := escapedUnit u after
            readString fuel after (ch :: acc)
          | none => none
        else none
    | c :: rest => if c.toNat < 0x20 then none else readString fuel rest (c :: acc)

/-- Why a JSON text is not read: it is malformed, or a reader of its parts failed with
its own kind and message (an integer of too many digits). -/
inductive ReadFailure where
  | malformed
  | raised (kind message : String)
  deriving Inhabited

/-- What reading a part gives: the value and the rest of the text, or the failure. -/
abbrev Reading := Except ReadFailure (Value × List Char)

/-- Reads a number: an integer part without leading zeros, then an optional fraction
and exponent. Returns the value and the rest; an integer of more digits than integers
may have in text is refused. -/
def readNumber (cs : List Char) : Reading :=
  let (neg, body) := match cs with
    | '-' :: r => (true, r)
    | r => (false, r)
  let whole := match body with
    | '0' :: _ => ['0']
    | _ => body.takeWhile Char.isDigit
  if whole.isEmpty then .error .malformed
  else
    let rest := body.drop whole.length
    let (frac, rest) := match rest with
      | '.' :: d :: r => if d.isDigit then
          let ds := (d :: r).takeWhile Char.isDigit
          (some ds, (d :: r).drop ds.length)
        else (none, rest)
      | _ => (none, rest)
    let (expo, rest) := match rest with
      | e :: r =>
        if e = 'e' ∨ e = 'E' then
          let (sign, r') := match r with
            | '+' :: t => ("+", t)
            | '-' :: t => ("-", t)
            | t => ("", t)
          let ds := r'.takeWhile Char.isDigit
          if ds.isEmpty then (none, rest) else (some (sign, ds), r'.drop ds.length)
        else (none, rest)
      | [] => (none, rest)
    match frac, expo with
    | none, none =>
      match Number.readInt (String.ofList ((if neg then ['-'] else []) ++ whole)) 10 with
      | .ok n => .ok (.int n, rest)
      | .error m => .error (.raised "ValueError" m)
    | _, _ =>
      let fracDs := frac.getD []
      let m := (String.ofList (whole ++ fracDs)).toNat!
      let e : Int := match expo with
        | some (s, ds) => let k : Int := (String.ofList ds).toNat!; if s = "-" then -k else k
        | none => 0
      .ok (.float (Number.ofDecimalParts neg m (e - fracDs.length)), rest)

/-- Reads the string after an opening quote as a reading. -/
def readQuoted (cs : List Char) : Except ReadFailure (String × List Char) :=
  match readString cs.length cs [] with
  | some r => .ok r
  | none => .error .malformed

mutual

/-- Reads one value from the front of `cs` (after blanks). -/
def readValue (fuel : Nat) (cs : List Char) : Reading :=
  match fuel with
  | 0 => .error .malformed
  | fuel + 1 =>
    match skipSpace cs with
    | '"' :: rest => (readQuoted rest).map fun (s, r) => (.str s, r)
    | '\x7b' :: rest => readObject fuel (skipSpace rest)
    | '[' :: rest => readArray fuel (skipSpace rest)
    | 'n' :: 'u' :: 'l' :: 'l' :: rest => .ok (.null, rest)
    | 't' :: 'r' :: 'u' :: 'e' :: rest => .ok (.bool true, rest)
    | 'f' :: 'a' :: 'l' :: 's' :: 'e' :: rest => .ok (.bool false, rest)
    | 'N' :: 'a' :: 'N' :: rest => .ok (.float (0.0 / 0.0), rest)
    | 'I' :: 'n' :: 'f' :: 'i' :: 'n' :: 'i' :: 't' :: 'y' :: rest =>
      .ok (.float (Number.ofDecimalParts false 1 400), rest)
    | '-' :: 'I' :: 'n' :: 'f' :: 'i' :: 'n' :: 'i' :: 't' :: 'y' :: rest =>
      .ok (.float (Number.ofDecimalParts true 1 400), rest)
    | other => readNumber other

/-- Reads the members of an object after its opening brace, up to and with the closing
brace. -/
def readObject (fuel : Nat) (cs : List Char) : Reading :=
  match cs with
  | '\x7d' :: rest => .ok (.map [], rest)
  | _ => readMembers fuel cs []

/-- Reads `"key": value` members separated by commas, then the closing brace. -/
def readMembers (fuel : Nat) (cs : List Char) (acc : Entries) : Reading :=
  match fuel with
  | 0 => .error .malformed
  | fuel + 1 =>
    match cs with
    | '"' :: rest => do
      let (k, rest) ← readQuoted rest
      match skipSpace rest with
      | ':' :: rest => do
        let (v, rest) ← readValue fuel rest
        let acc := Entries.insert acc (.str k) v
        match skipSpace rest with
        | ',' :: rest => readMembers fuel (skipSpace rest) acc
        | '\x7d' :: rest => .ok (.map acc, rest)
        | _ => .error .malformed
      | _ => .error .malformed
    | _ => .error .malformed

/-- Reads the elements of an array after `[`, up to and with the closing `]`. -/
def readArray (fuel : Nat) (cs : List Char) : Reading :=
  match cs with
  | ']' :: rest => .ok (.list [], rest)
  | _ => readElements fuel cs []

/-- Reads values separated by commas, then `]`. -/
def readElements (fuel : Nat) (cs : List Char) (acc : List Value) : Reading :=
  match fuel with
  | 0 => .error .malformed
  | fuel + 1 => do
    let (v, rest) ← readValue fuel cs
    match skipSpace rest with
    | ',' :: rest => readElements fuel rest (v :: acc)
    | ']' :: rest => .ok (.list (v :: acc).reverse, rest)
    | _ => .error .malformed

end

/-- Reads a whole JSON text: one value with only blanks around it. -/
def parse (s : String) : Except ReadFailure Value :=
  let cs := s.toList
  if cs.head? = some '\uFEFF' then .error .malformed
  else do
    let (v, rest) ← readValue (2 * cs.length + 2) cs
    if (skipSpace rest).isEmpty then .ok v else .error .malformed

/-- Reads a whole JSON text, or nothing when it cannot be read. -/
def parse? (s : String) : Option Value := (parse s).toOption

end IacLint.Json
