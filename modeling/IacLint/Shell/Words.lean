import IacLint.Shell.State
import IacLint.Shell.Parse

/-!
# Working with expanded words

What the shell does with words once their expansions are done, none of which runs a
command:

* trimming a value by a pattern (`${name%pattern}` and its kin), replacing in it and
  changing its case;
* cutting pieces into fields and matching the fields against file names;
* writing a command as `-x` traces it.

## Main definitions

* `trimSuffix`, `trimPrefix`, `replacePattern`, `mapCase`
* `Session.fieldsOf` — the arguments expanded pieces give
* `traceLine` — a traced command
* `SyntaxError.posixMessage`, `SyntaxError.bashLines` — complaints about syntax
-/

namespace IacLint.Shell

open IacLint.Text

/-- The value without the shortest (or `longest`) suffix the pattern matches. -/
def trimSuffix (globs : List Glob) (longest : Bool) (v : String) : String :=
  let cs := v.toList
  let n := cs.length
  let order := if longest then (List.range (n + 1)).reverse else List.range (n + 1)
  match order.find? fun k => globMatches globs (cs.drop (n - k)) with
  | some k => String.ofList (cs.take (n - k))
  | none => v

/-- The value without the shortest (or `longest`) prefix the pattern matches. -/
def trimPrefix (globs : List Glob) (longest : Bool) (v : String) : String :=
  let cs := v.toList
  let n := cs.length
  let order := if longest then (List.range (n + 1)).reverse else List.range (n + 1)
  match order.find? fun k => globMatches globs (cs.take k) with
  | some k => String.ofList (cs.drop k)
  | none => v

/-- The longest match of a pattern starting at the front of some characters: its length. -/
def longestMatchAt (globs : List Glob) (cs : List Char) : Option Nat :=
  (List.range (cs.length + 1)).reverse.find? fun k => globMatches globs (cs.take k)

/-- Replaces matches of a pattern: the first, or every one (`all`), or only one at the
start (`anchor = some true`) or at the end (`some false`). -/
def replacePattern (globs : List Glob) (all : Bool) (anchor : Option Bool) (rep v : String) : String :=
  let cs := v.toList
  match anchor with
  | some true =>
    match longestMatchAt globs cs with
    | some k => rep ++ String.ofList (cs.drop k)
    | none => v
  | some false =>
    match (List.range (cs.length + 1)).find? fun k => globMatches globs (cs.drop k) with
    | some k => String.ofList (cs.take k) ++ rep
    | none => v
  | none =>
    let rec go (fuel : Nat) (cs : List Char) (replaced : Bool) : List Char :=
      match fuel, cs with
      | 0, _ => cs
      | _, [] =>
        if !replaced && globMatches globs [] then rep.toList else []
      | fuel + 1, c :: rest =>
        if replaced && !all then cs
        else
          match longestMatchAt globs (c :: rest) with
          | some k =>
            if k = 0 then
              if globMatches globs [] && !replaced then rep.toList ++ c :: go fuel rest true
              else c :: go fuel rest replaced
            else rep.toList ++ go fuel ((c :: rest).drop k) true
          | none => c :: go fuel rest replaced
    String.ofList (go (cs.length + 1) cs false)

/-- The value with its first (or `all`) letters in upper (or lower) case. -/
def mapCase (upper all : Bool) (v : String) : String :=
  let f (c : Char) : Char := if upper then c.toUpper else c.toLower
  match v.toList with
  | [] => ""
  | c :: rest => String.ofList (f c :: if all then rest.map f else rest)

/-- The characters of text with the trailing line breaks dropped, as a command
substitution gives them. -/
def dropTrailingBreaks (s : String) : String :=
  String.ofList (s.toList.reverse.dropWhile (· = '\n')).reverse

namespace Session

/-- The arguments expanded pieces give: cut into fields at `IFS`, each field with
unquoted wildcards replaced by the files it matches (unless `-f`), quotes removed. -/
def fieldsOf (sh : Session) (ps : List Piece) : List String :=
  (splitFields sh.ifs ps).flatMap fun f =>
    if sh.opts.noglob then [piecesText f]
    else
      match expandPaths sh.tree sh.cwd (markedChars f) with
      | some paths => paths
      | none => [piecesText f]

end Session

/-- Whether a word needs quotes when the larger shell traces it. -/
def needsTraceQuotes (s : String) : Bool :=
  s.isEmpty || s.toList.any fun c =>
    " \t\n'\"\\|&;()<>$`*?[]#~=%!\x7b\x7d".toList.contains c

/-- A word as the larger shell traces it: in single quotes when it needs quoting. -/
def traceWord (s : String) : String :=
  if needsTraceQuotes s then "'" ++ String.join (s.toList.map fun c => if c = '\'' then "'\\''" else String.ofList [c]) ++ "'"
  else s

/-- A traced command line: `+ ` and the words; the larger shell quotes words that need it. -/
def traceLine (d : Dialect) (depth : Nat) (words : List String) : String :=
  let marks := String.ofList (List.replicate (depth + 1) '+')
  match d with
  | .posix => marks ++ " " ++ " ".intercalate words ++ "\n"
  | .bash => marks ++ " " ++ " ".intercalate (words.map traceWord) ++ "\n"

/-- How the POSIX shell names a token in a complaint. -/
def TokenName.posixText : TokenName → String
  | .endOfFile => "end of file"
  | .newline => "newline"
  | .word _ => "word"
  | .symbol s _ => "\"" ++ s ++ "\""

/-- How the larger shell names a token in a complaint. -/
def TokenName.bashText : TokenName → String
  | .endOfFile => "end of file"
  | .newline => "newline"
  | .word w => w
  | .symbol s _ => s

/-- The POSIX shell's complaint about a syntax error. -/
def SyntaxError.posixMessage : SyntaxError → String
  | .unexpected _ t e =>
    "Syntax error: " ++ t.posixText ++ " unexpected" ++
      (match e with
        | some x => " (expecting " ++ x ++ ")"
        | none => "")
  | .unterminated _ _ _ => "Syntax error: Unterminated quoted string"
  | .backquote _ _ => "Syntax error: EOF in backquote substitution"
  | .arithmetic _ _ => "Syntax error: Missing '))'"
  | .brace _ _ => "Syntax error: Missing '\x7d'"
  | .substitution _ => "Syntax error: end of file unexpected (expecting \")\")"
  | .forVariable _ => "Syntax error: Bad for loop variable"

/-- The larger shell's complaint about a syntax error: its lines, each with the line of
the script it names; `source` gives the text of a line of the script. -/
def SyntaxError.bashLines (e : SyntaxError) (source : Nat → String) : List (Nat × String) :=
  let eof (q : String) := "unexpected EOF while looking for matching `" ++ q ++ "'"
  match e with
  | .unexpected l .endOfFile _ => [(l, "syntax error: unexpected end of file")]
  | .unexpected l t _ =>
    let l := match t with
      | .newline => l - 1
      | _ => l
    [(l, "syntax error near unexpected token `" ++ t.bashText ++ "'"), (l, "`" ++ source l ++ "'")]
  | .unterminated _ q s => [(s, eof (String.ofList [q]))]
  | .backquote _ s => [(s, eof "`")]
  | .arithmetic _ s => [(s, eof ")")]
  | .brace _ s => [(s, eof "\x7d")]
  | .substitution l => [(l, eof ")")]
  | .forVariable l => [(l, "syntax error: bad for loop variable")]

end IacLint.Shell
