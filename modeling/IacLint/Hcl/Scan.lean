import IacLint.Text.Search
import IacLint.Text.Blank

/-!
# Scanning configuration text

The reader takes its tokens from the text one at a time, and what counts as a token
depends on what the reader can accept at that point:

* spaces and tabs are skipped everywhere;
* a *line break* is one of a line feed with the blanks after it, a `#` or `//` comment
  through its line feed, or a block comment `/* … */`. Where no line break is accepted,
  block comments are skipped like blanks, and the others end the construct;
* a *name* is a letter or `_`, then letters, digits, `_` and `-`;
* numbers are read digit by digit, with blanks between the digits ignored, so `1 2`
  is the number `12`;
* an exponent `e`, `E`, an optional sign and digits is one token;
* a here-document `<<NAME` (or `<<-NAME`, indented) runs from the line feed after its
  header to the first later place where `NAME` stands, anywhere on a line.

## Main definitions

* `Cursor` — the text still to read and the line it starts on
* `breakLength` — the length of the line break at the front, if any
* `skipIgnored`, `skipBreaks` — skip what a position ignores
* `heredocAt` — the here-document after `<<`
-/

namespace IacLint.Hcl

/-- The place of the reader in a text: the characters still to read and the line they
start on. -/
structure Cursor where
  rest : List Char
  line : Nat
  deriving Inhabited

namespace Cursor

/-- Moves past `n` characters, counting the line feeds among them. -/
def advance (c : Cursor) (n : Nat) : Cursor :=
  ⟨c.rest.drop n, c.line + (c.rest.take n).count '\n'⟩

end Cursor

/-- Whether `c` may start a name. -/
def isNameStart (c : Char) : Bool := ('a' ≤ c && c ≤ 'z') || ('A' ≤ c && c ≤ 'Z') || c = '_'

/-- Whether `c` may continue a name. -/
def isNameChar (c : Char) : Bool := isNameStart c || ('0' ≤ c && c ≤ '9') || c = '-'

/-- The name at the front of a text, if one starts there. -/
def nameAt : List Char → Option String
  | c :: rest => if isNameStart c then some (String.ofList (c :: rest.takeWhile isNameChar)) else none
  | [] => none

/-- Whether the text starts with the name `w` as a whole name (not a longer one). -/
def wordAt (w : String) (cs : List Char) : Bool := nameAt cs == some w

/-- The length of a block comment at the front of a text, through the first `*/`. -/
def blockCommentLength (cs : List Char) : Option Nat :=
  match cs with
  | '/' :: '*' :: rest => (closeAt rest 0).map (· + 2)
  | _ => none
where
  /-- The length through the first `*/`, `n` characters already passed. -/
  closeAt : List Char → Nat → Option Nat
    | '*' :: '/' :: _, n => some (n + 2)
    | _ :: more, n => closeAt more (n + 1)
    | [], _ => none

/-- The length of a comment that runs through its line feed, after its `start`
opening characters; none when no line feed ends it. -/
def lineCommentLength (start : Nat) (rest : List Char) : Option Nat :=
  let body := rest.takeWhile (· ≠ '\n')
  if body.length < rest.length then some (start + body.length + 1) else none

/-- The length of the line break at the front of a text: a line feed with the spaces and
tabs after it, a `#` or `//` comment through its line feed, or a block comment. -/
def breakLength (cs : List Char) : Option Nat :=
  match cs with
  | '\n' :: rest => some (1 + (rest.takeWhile fun c => c = ' ' || c = '\t').length)
  | '#' :: rest => lineCommentLength 1 rest
  | '/' :: '/' :: rest => lineCommentLength 2 rest
  | _ => blockCommentLength cs

/-- Skips spaces and tabs, and block comments too where no line break is accepted
(`breaks` false); `fuel` bounds the steps. -/
def skipIgnoredFrom (breaks : Bool) : Nat → Cursor → Cursor
  | 0, c => c
  | fuel + 1, c =>
    match c.rest with
    | ' ' :: _ => skipIgnoredFrom breaks fuel (c.advance 1)
    | '\t' :: _ => skipIgnoredFrom breaks fuel (c.advance 1)
    | cs =>
      if breaks then c
      else match blockCommentLength cs with
        | some n => skipIgnoredFrom breaks fuel (c.advance n)
        | none => c

/-- Skips what a position ignores: spaces and tabs, and block comments where no line
break is accepted. -/
def skipIgnored (breaks : Bool) (c : Cursor) : Cursor := skipIgnoredFrom breaks (c.rest.length + 1) c

/-- Skips blanks and line breaks; tells whether there was a line break. -/
def skipBreaksFrom : Nat → Cursor → Bool → Cursor × Bool
  | 0, c, b => (c, b)
  | fuel + 1, c, b =>
    let c := skipIgnored true c
    match breakLength c.rest with
    | some n => skipBreaksFrom fuel (c.advance n) true
    | none => (c, b)

/-- Skips blanks and line breaks; tells whether there was a line break. -/
def skipBreaks (c : Cursor) : Cursor × Bool := skipBreaksFrom (c.rest.length + 1) c false

/-- Whether a line break is next, after blanks. -/
def atBreak (c : Cursor) : Bool := (breakLength (skipIgnored true c).rest).isSome

/-- The binary operators, longer ones before their prefixes. -/
def binaryOperators : List String :=
  ["==", "!=", "<=", ">=", "&&", "||", "<", ">", "-", "*", "/", "%", "+"]

/-- The binary operator at the front of a text, the longest one that fits. -/
def binaryOperatorAt (cs : List Char) : Option String :=
  binaryOperators.find? fun op => op.toList.isPrefixOf cs

/-- The exponent at the front of a text: `e` or `E`, an optional sign and digits. -/
def exponentAt : List Char → Option (List Char)
  | e :: rest =>
    if e = 'e' || e = 'E' then
      let (sign, more) := match rest with
        | s :: m => if s = '+' || s = '-' then ([s], m) else ([], rest)
        | [] => ([], [])
      let ds := more.takeWhile Char.isDigit
      if ds.isEmpty then none else some (e :: sign ++ ds)
    else none
  | [] => none

/-- Whether `=` is next as the sign of an attribute or object element: not the start of
`==` or `=>`. -/
def assignAt : List Char → Bool
  | '=' :: c :: _ => c ≠ '=' && c ≠ '>'
  | '=' :: [] => true
  | _ => false

/-- The length of the run of plain characters at the front of a quoted string: any
character but the quote and the backslash, as long as it opens neither `${` nor `$${`,
and a backslash with any character but a line feed after it. -/
def stringCharsLength : List Char → Nat
  | '"' :: _ => 0
  | '\\' :: c :: rest => if c = '\n' then 0 else 2 + stringCharsLength rest
  | '\\' :: [] => 0
  | '$' :: '\x7b' :: _ => 0
  | '$' :: '$' :: '\x7b' :: _ => 0
  | _ :: rest => 1 + stringCharsLength rest
  | [] => 0

/-- Drops the line feeds, spaces and tabs at the end of a text. -/
def trimEnd (cs : List Char) : List Char :=
  (cs.reverse.dropWhile fun c => c = '\n' || c = '\t' || c = ' ').reverse

/-- The number of spaces a line starts with. -/
def leadingSpaces (line : List Char) : Nat := (line.takeWhile (· = ' ')).length

/-- Drops from every line as many leading spaces as the least indented line has. -/
def dedent (cs : List Char) : List Char :=
  let lines := Text.splitOnChar (String.ofList cs) '\n'
  let least := (lines.map fun l => leadingSpaces l.toList).min?.getD 0
  "\n".intercalate (lines.map fun l => String.ofList (l.toList.drop least)) |>.toList

/-- Whether `c` may continue the name of a here-document. -/
def isDelimiterChar (c : Char) : Bool :=
  ('a' ≤ c && c ≤ 'z') || ('A' ≤ c && c ≤ 'Z') || ('0' ≤ c && c ≤ '9') || c = '.' || c = '_' ||
    c = '-'

/-- The here-document after `<<`: its text, and how many characters it spans after the
`<<`. The header is an optional `-`, then a name of a letter and at least one more
name character, then a line feed; the text runs to the first later place where the
name stands. Its end is trimmed of line feeds, spaces and tabs, and with `-` every line
loses as many leading spaces as the least indented one has. -/
def heredocAt (cs : List Char) : Option (String × Nat) :=
  let (indented, cs') := match cs with
    | '-' :: rest => (true, rest)
    | rest => (false, rest)
  match cs' with
  | c :: _ =>
    let delim := cs'.takeWhile isDelimiterChar
    if !(('a' ≤ c && c ≤ 'z') || ('A' ≤ c && c ≤ 'Z')) || delim.length < 2 then none
    else
      match cs'.drop delim.length with
      | '\n' :: rest => (Text.indexOf? delim rest).map fun i =>
          let body := trimEnd (rest.take i)
          let text := String.ofList (if indented then dedent body else body)
          (text, (if indented then 1 else 0) + delim.length + 1 + i + delim.length)
      | _ => none
  | [] => none

end IacLint.Hcl
