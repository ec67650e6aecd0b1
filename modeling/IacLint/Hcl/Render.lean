import IacLint.Data.Value.Text
import IacLint.Json.Write
import IacLint.Text.Search
import IacLint.Number.Format

/-!
# Writing expressions as text

The reader of configuration documents gives literals their values (numbers, truth
values, `null`, quoted text, lists and mappings) and writes every other expression as
text. That text is assembled from the parts of the expression in one of three ways,
depending on the construct:

* the *plain form* (`text`): text as itself, other values in their literal form, so
  `true` is `True` and `null` is `None`; used by indexes, attribute accesses,
  conditionals and parenthesised object keys;
* the *inline form* (`inline`): truth values in lower case, lists item by item,
  mappings as compact JSON text (`{"a": 1}`) and `null` still as `None`; used by
  operators, calls and `for` expressions;
* where a value is stored (`stored`): quoted text loses its quotes and has its escapes
  replaced, the type names `bool`, `number` and `string` stay bare, and any other text is
  wrapped as an expression `${…}`.

Several constructs first turn a `null` operand into the word `null` (`nullAsWord`).

## Main definitions

* `text`, `inline`, `stored` — the three forms
* `stripQuotes` — quoted text without its quotes, escapes replaced
* `dumps` — the JSON text of a value with `, ` and `: ` separators
-/

namespace IacLint.Hcl

open IacLint.Data IacLint.Number

/-- The marker that opens a written-out expression. -/
def exprOpen : String := "$\x7b"

/-- The plain form of a value. -/
def text (v : Value) : String := v.plain

/-- Whether a text starts and ends with a double quote (a lone quote does both). -/
def isQuoted (s : String) : Bool := s.startsWith "\"" && s.endsWith "\""

/-- The text between the first and the last character. -/
def inner (s : String) : String := String.ofList ((s.toList.drop 1).dropLast)

/-- Replaces the escapes of a quoted text, one kind after the other: `\n`, `\r`, `\t`,
`\"`, then `\\`. -/
def unescape (s : String) : String :=
  let s := Text.replaceAll s "\\n" "\n"
  let s := Text.replaceAll s "\\r" "\r"
  let s := Text.replaceAll s "\\t" "\t"
  let s := Text.replaceAll s "\\\"" "\""
  Text.replaceAll s "\\\\" "\\"

/-- Quoted text without its quotes and with its escapes replaced; other text as it is. -/
def stripQuotes (s : String) : String := if isQuoted s then unescape (inner s) else s

/-- The names that stay bare where a value is stored: the type names. -/
def typeNames : List String := ["bool", "number", "string"]

/-- A value as it is stored in a document. -/
def stored : Value → Value
  | .str s =>
    if isQuoted s then .str (unescape (inner s))
    else if typeNames.contains s then .str s
    else .str (exprOpen ++ s ++ "\x7d")
  | v => v

/-- A written-out expression without its `${` and `}`; other text as it is. -/
def unwrap (s : String) : String :=
  if s.startsWith exprOpen && s.endsWith "\x7d" then String.ofList ((s.toList.drop 2).dropLast)
  else s

/-- The word `null` in place of the empty value. -/
def nullAsWord : Value → Value
  | .null => .str "null"
  | v => v

/-- The JSON text of a number that is a double: `NaN`, `Infinity` and `-Infinity` for
the values JSON has no numbers for. -/
def floatJson (x : Float) : String :=
  if x.isNaN then "NaN"
  else if x.isInf then (if x > 0 then "Infinity" else "-Infinity")
  else x.exactText

/-- The JSON text of a value, with `, ` between items and `: ` after keys, and every
character outside printable ASCII escaped. -/
def dumps : Value → String
  | .null => "null"
  | .bool b => if b then "true" else "false"
  | .int n => toString n
  | .float x => floatJson x
  | .str s => Json.escapeString s
  | .list xs => "[" ++ ", ".intercalate (xs.map dumps) ++ "]"
  | .tuple xs => "[" ++ ", ".intercalate (xs.map dumps) ++ "]"
  | .map kvs => "\x7b" ++ ", ".intercalate (kvs.attach.map fun ⟨kv, h⟩ =>
      have := Value.sizeOf_val_lt h
      Json.escapeString kv.1.plain ++ ": " ++ dumps kv.2) ++ "\x7d"
  | v => Json.escapeString v.plain

/-- Undoes the escaping of quotes inside written-out expressions of a JSON text: from
the first `${` to the last closing brace, `\"` becomes `"`. -/
def unescapeQuotesInExpressions (s : String) : String :=
  let cs := s.toList
  match Text.indexOf? exprOpen.toList cs with
  | none => s
  | some i =>
    let tail := cs.drop (i + 2)
    match tail.reverse.findIdx? (· = '\x7d') with
    | none => s
    | some j =>
      let span := tail.take (tail.length - j)
      let after := tail.drop (tail.length - j)
      String.ofList (cs.take i) ++
        Text.replaceAll (exprOpen ++ String.ofList span) "\\\"" "\"" ++ String.ofList after

/-- The inline form of a value. -/
def inline : Value → String
  | .map kvs => unescapeQuotesInExpressions (dumps (.map kvs))
  | .list xs => "[" ++ ", ".intercalate (xs.map inline) ++ "]"
  | .bool b => if b then "true" else "false"
  | .str s => s
  | v => v.plain

end IacLint.Hcl
