import IacLint.Data.Value
import IacLint.Number.Format
import IacLint.Number.Parse
import IacLint.Text.Quoted

/-!
# Written forms of data values

Two written forms of a value, as messages and converted settings show it:

* the *literal form* writes a value as source text would spell it: `None`, `True`,
  `1.5`, quoted text `'a'`, `[1, 'x']`, `{'a': 1}`, `b'\x00'`, `{1, 2}` (`set()` when
  empty), `datetime.date(2020, 1, 1)`, `(1, 'a')` (`(1,)` for one element);
* the *plain form* is the literal form, except that text stands for itself and dates and
  times are written `2020-01-01` and `2001-12-14 21:59:43.100000-05:00`.

Elements of lists, mappings and sets are written in literal form in both.

Writing a value as text writes every integer in it, and text conversion refuses an integer
of more than `Number.maxIntDigits` digits: such a value cannot be written at all.

## Main definitions

* `quoteBytes` — the literal form of a byte string
* `Value.literal` — the literal form
* `Value.plain` — the plain form
* `Value.writable` — whether a value can be written as text
* `Value.plainText` — the plain form, or the complaint when the value cannot be written
-/

namespace IacLint.Data

open IacLint.Text IacLint.Number

/-- The written form of one byte inside quotes `q`. -/
def escapeByte (q : Char) (b : UInt8) : List Char :=
  let c := Char.ofNat b.toNat
  if c = q ∨ c = '\\' then ['\\', c]
  else if c = '\t' then ['\\', 't']
  else if c = '\n' then ['\\', 'n']
  else if c = '\r' then ['\\', 'r']
  else if b.toNat < 0x20 ∨ b.toNat ≥ 0x7f then '\\' :: 'x' :: (hexPad 2 b.toNat).toList
  else [c]

/-- The literal form of a byte string: `b` and the bytes between quotes. -/
def quoteBytes (bs : List UInt8) : String :=
  let hasApos := bs.contains 39
  let hasDouble := bs.contains 34
  let q := if hasApos && !hasDouble then '"' else '\''
  String.ofList ('b' :: q :: bs.flatMap (escapeByte q) ++ [q])

/-- A signed count of seconds as a time span: whole days, seconds and microseconds with
the days carrying the sign. -/
def spanLiteral (seconds : Int) : String :=
  let days := seconds / 86400
  let rest := seconds % 86400
  let parts := (if days ≠ 0 then ["days=" ++ toString days] else []) ++
    (if rest ≠ 0 then ["seconds=" ++ toString rest] else [])
  "datetime.timedelta(" ++ (if parts.isEmpty then "0" else ", ".intercalate parts) ++ ")"

/-- The literal form of a date. -/
def Date.literal (d : Date) : String :=
  "datetime.date(" ++ toString d.year ++ ", " ++ toString d.month ++ ", " ++
    toString d.day ++ ")"

/-- The literal form of a point in time. -/
def DateTime.literal (t : DateTime) : String :=
  let d := t.date
  let fields := [d.year, d.month, d.day, t.hour, t.minute] ++
    (if t.second ≠ 0 ∨ t.micro ≠ 0 then [t.second] else []) ++
    (if t.micro ≠ 0 then [t.micro] else [])
  let zone := match t.offset with
    | none => ""
    | some 0 => ", tzinfo=datetime.timezone.utc"
    | some m => ", tzinfo=datetime.timezone(" ++ spanLiteral (m * 60) ++ ")"
  "datetime.datetime(" ++ ", ".intercalate (fields.map toString) ++ zone ++ ")"

namespace Value

/-- The literal form of a value. -/
def literal : Value → String
  | .null => "None"
  | .bool b => if b then "True" else "False"
  | .int n => toString n
  | .float x => x.exactText
  | .str s => quote s
  | .list xs => "[" ++ ", ".intercalate (xs.map literal) ++ "]"
  | .map kvs => "\x7b" ++ ", ".intercalate (kvs.attach.map fun ⟨kv, h⟩ =>
      have := sizeOf_key_lt h
      have := sizeOf_val_lt h
      literal kv.1 ++ ": " ++ literal kv.2) ++ "\x7d"
  | .date d => d.literal
  | .time t => t.literal
  | .bytes bs => quoteBytes bs
  | .set xs => if xs.isEmpty then "set()" else "\x7b" ++ ", ".intercalate (xs.map literal) ++ "\x7d"
  | .tuple [x] => "(" ++ literal x ++ ",)"
  | .tuple xs => "(" ++ ", ".intercalate (xs.map literal) ++ ")"

/-- The plain form of a value: text as itself, dates and times in ISO layout with a
space before the time, everything else in literal form. -/
def plain : Value → String
  | .str s => s
  | .date d => d.isoText
  | .time t => t.text
  | v => v.literal

mutual

/-- Whether every integer in a value has few enough digits to be written as text. -/
def writable : Value → Bool
  | .int n => !Number.tooLongToWrite n
  | .list xs | .set xs | .tuple xs => writableAll xs
  | .map kvs => writableEntries kvs
  | _ => true

/-- Whether every value of a list can be written as text. -/
def writableAll : List Value → Bool
  | [] => true
  | x :: xs => x.writable && writableAll xs

/-- Whether every key and value of a mapping can be written as text. -/
def writableEntries : List (Value × Value) → Bool
  | [] => true
  | (k, v) :: kvs => k.writable && v.writable && writableEntries kvs

end

/-- The plain form of a value as text conversion writes it, or the complaint about an
integer in it of too many digits. -/
def plainText (v : Value) : Except String String :=
  if v.writable then .ok v.plain else .error Number.writeLimitComplaint

end Value

end IacLint.Data
