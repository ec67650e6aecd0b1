import IacLint.Text.Quoted

/-!
# Writing JSON text

JSON documents to be written, and two layouts for them: the compact layout on one line
and the indented layout with two spaces per level, `", "`-free item ends and `": "`
after keys. Strings are written in ASCII: the quote, the backslash and the control
characters get escapes, and every character outside the printable ASCII range is
written as `\u` and four hexadecimal digits, a surrogate pair beyond the basic plane;
a stand-in for a lone surrogate is written as that surrogate's escape.

## Main definitions

* `Doc` — a JSON document to be written; numbers carry their text
* `escapeString` — the quoted, escaped form of a string
* `Doc.compact`, `Doc.indented` — the two layouts
-/

namespace IacLint.Json

/-- A JSON document to be written. -/
inductive Doc where
  | null
  | bool (b : Bool)
  /-- A number, already in its written form. -/
  | num (text : String)
  | str (s : String)
  | arr (xs : List Doc)
  | obj (kvs : List (String × Doc))
  deriving Inhabited

/-- The escape of a character in a JSON string. -/
def escapeChar (c : Char) : List Char :=
  let u4 (n : Nat) : List Char := '\\' :: 'u' :: (Text.hexPad 4 n).toList
  if c = '"' then ['\\', '"']
  else if c = '\\' then ['\\', '\\']
  else if c = '\n' then ['\\', 'n']
  else if c = '\r' then ['\\', 'r']
  else if c = '\t' then ['\\', 't']
  else if c = '\x08' then ['\\', 'b']
  else if c = '\x0c' then ['\\', 'f']
  else if let some u := Text.surrogateOf? c then u4 u
  else if c.toNat < 0x20 ∨ c.toNat ≥ 0x7f then
    if c.toNat < 0x10000 then u4 c.toNat
    else
      let v := c.toNat - 0x10000
      u4 (0xD800 + v / 0x400) ++ u4 (0xDC00 + v % 0x400)
  else [c]

/-- A string in quotes with ASCII escapes. -/
def escapeString (s : String) : String :=
  String.ofList ('"' :: s.toList.flatMap escapeChar ++ ['"'])

namespace Doc

theorem sizeOf_snd_lt {kvs : List (String × Doc)} {kv : String × Doc} (h : kv ∈ kvs) :
    sizeOf kv.2 < 1 + sizeOf kvs := by
  have := List.sizeOf_lt_of_mem h
  cases kv; simp at this ⊢; omega

/-- The compact layout: no blanks at all. -/
def compact : Doc → String
  | .null => "null"
  | .bool b => if b then "true" else "false"
  | .num t => t
  | .str s => escapeString s
  | .arr xs => "[" ++ ",".intercalate (xs.map compact) ++ "]"
  | .obj kvs => "\x7b" ++ ",".intercalate (kvs.attach.map fun ⟨kv, h⟩ =>
      have := sizeOf_snd_lt h
      escapeString kv.1 ++ ":" ++ compact kv.2) ++ "\x7d"

/-- The indented layout at nesting `depth`: each item on a line of its own, indented
two spaces per level; empty arrays and objects stay `[]` and `{}`. -/
def indented (depth : Nat) : Doc → String
  | .arr [] => "[]"
  | .obj [] => "\x7b\x7d"
  | .arr xs =>
    let pad := String.ofList (List.replicate (2 * (depth + 1)) ' ')
    "[\n" ++ ",\n".intercalate (xs.map fun x => pad ++ indented (depth + 1) x) ++ "\n" ++
      String.ofList (List.replicate (2 * depth) ' ') ++ "]"
  | .obj kvs =>
    let pad := String.ofList (List.replicate (2 * (depth + 1)) ' ')
    "\x7b\n" ++ ",\n".intercalate (kvs.attach.map fun ⟨kv, h⟩ =>
      have := sizeOf_snd_lt h
      pad ++ escapeString kv.1 ++ ": " ++ indented (depth + 1) kv.2) ++ "\n" ++
      String.ofList (List.replicate (2 * depth) ' ') ++ "\x7d"
  | j => j.compact

end Doc

end IacLint.Json
