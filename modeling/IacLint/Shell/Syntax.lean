/-!
# The syntax of shell scripts

A script is a sequence of commands. The words of a command are kept as written, as
*parts*: literal text outside quotes, quoted text, and the expansions (parameters,
command substitutions, arithmetic) that are carried out only when the command runs.
Text outside quotes keeps its pattern characters (`*`, `?`, `[`) and is never cut into
fields; the results of expansions outside quotes are cut and matched against file names.

Compound commands nest: groups `{ …; }`, subshells `( … )`, `if`, `while` and `until`
loops, `for` loops, `case` and function definitions, and the test command `[[ … ]]` of
the larger shell.

## Main definitions

* `Part`, `Word` — words as written
* `ParamOp` — what a parameter expansion does with the parameter's value
* `Redirect` — a redirection of a descriptor
* `Command` — commands, simple and compound
-/

namespace IacLint.Shell

/-- What a parameter expansion `${name…}` does with the parameter's value. -/
inductive ParamOp where
  /-- The value itself. -/
  | value
  /-- The number of characters of the value, `${#name}`. -/
  | length
  /-- The word when the parameter is unset (or empty, with `colon`), `${name-word}`. -/
  | ifUnset (colon : Bool)
  /-- As `ifUnset`, and the parameter is set to the word, `${name=word}`. -/
  | assignIfUnset (colon : Bool)
  /-- A failure with the word as message when unset, `${name?word}`. -/
  | failIfUnset (colon : Bool)
  /-- The word when the parameter is set, `${name+word}`. -/
  | ifSet (colon : Bool)
  /-- The value without the shortest (or longest) suffix matching a pattern. -/
  | dropSuffix (longest : Bool)
  /-- The value without the shortest (or longest) prefix matching a pattern. -/
  | dropPrefix (longest : Bool)
  /-- The value with the first (or every) match of a pattern replaced; `anchor` ties
  the match to the start (`some true`) or the end (`some false`). -/
  | replace (all : Bool) (anchor : Option Bool)
  /-- A slice of the value from an offset, with a length if `counted`. -/
  | slice (counted : Bool)
  /-- The value with its first (or every) letter in upper (or lower) case. -/
  | caseMap (upper all : Bool)
  /-- The value of the parameter named by the value, `${!name}`. -/
  | indirect
  /-- An operator the shell does not know: a failure when carried out. -/
  | invalid
  deriving Inhabited, BEq

/-- A piece of a word as written. -/
inductive Part where
  /-- Text outside quotes. -/
  | lit (s : String)
  /-- Quoted or escaped text. -/
  | quoted (s : String)
  /-- A parameter expansion: the parameter, what is done with it, its word (the
  pattern, or the offset of a slice) and a second word (the replacement, or the length
  of a slice); `quoted` inside double quotes. -/
  | param (name : String) (op : ParamOp) (word extra : List Part) (quoted : Bool)
  /-- A command substitution, with the text of its commands and the line it starts on. -/
  | command (text : String) (quoted : Bool) (line : Nat)
  /-- An arithmetic expansion, with the parts of its expression. -/
  | arith (expr : List Part) (quoted : Bool)
  deriving Inhabited

/-- A word as written: its parts. -/
abbrev Word := List Part

/-- The kinds of redirection. -/
inductive RedirectOp where
  /-- `<`: read a file. -/
  | read
  /-- `>`: write a file, emptied first. -/
  | write
  /-- `>>`: write at the end of a file. -/
  | append
  /-- `<&`: read from a copy of a descriptor. -/
  | dupRead
  /-- `>&`: write to a copy of a descriptor. -/
  | dupWrite
  /-- `<>`: open a file for reading and writing. -/
  | readWrite
  /-- `<<`: read the text of a here-document. -/
  | heredoc
  /-- `<<<`: read a word and a line break. -/
  | herestring
  /-- `&>` (or `&>>` when `append`): send both outputs to a file. -/
  | writeBoth (append : Bool)
  deriving Inhabited, BEq

/-- A redirection: the descriptor (the default one of its kind when none is written),
the kind, the target word, and for a here-document its text and whether the text is
expanded (it is not when the delimiter was quoted). -/
structure Redirect where
  fd : Option Nat
  op : RedirectOp
  target : Word
  doc : String := ""
  expandDoc : Bool := true
  deriving Inhabited

/-- A condition of the test command `[[ … ]]`. -/
inductive Condition where
  /-- A word, true when not empty. -/
  | word (w : Word)
  /-- A test of one word, such as `-f file` or `-n text`. -/
  | unary (op : String) (w : Word)
  /-- A comparison of two words, such as `a == pattern` or `x -lt y`. -/
  | binary (op : String) (a b : Word)
  | not (c : Condition)
  | and (a b : Condition)
  | or (a b : Condition)
  deriving Inhabited

/-- A command. -/
inductive Command where
  /-- A simple command on a line: assignments, words and redirections. -/
  | simple (line : Nat) (assigns : List (String × Word)) (words : List Word)
      (redirects : List Redirect)
  /-- Commands joined by `|`, the status negated after `!`. -/
  | pipeline (negate : Bool) (stages : List Command)
  /-- A command followed by others, each run after `&&` (`true`) or `||` (`false`). -/
  | andOr (first : Command) (rest : List (Bool × Command))
  /-- Commands run one after the other. -/
  | sequence (items : List Command)
  /-- Commands in braces, run in the shell itself. -/
  | group (body : Command) (redirects : List Redirect)
  /-- Commands in parentheses, run in a copy of the shell. -/
  | subshell (body : Command) (redirects : List Redirect)
  /-- `if`: the condition, the commands when it succeeds, and otherwise the others. -/
  | ifThen (cond thenPart : Command) (elsePart : Option Command) (redirects : List Redirect)
  /-- `while` (or `until`) loop: the condition and the body. -/
  | loop (untilLoop : Bool) (cond body : Command) (redirects : List Redirect)
  /-- `for` loop: the variable, the words (the arguments when none are given), the body. -/
  | forIn (var : String) (items : Option (List Word)) (body : Command) (redirects : List Redirect)
  /-- `case`: the word and the arms, each with its patterns and commands. -/
  | caseOf (subject : Word) (arms : List (List Word × Command)) (redirects : List Redirect)
  /-- A function definition. -/
  | function (name : String) (body : Command)
  /-- The test command `[[ … ]]` of the larger shell, on a line. -/
  | test (line : Nat) (cond : Condition)
  deriving Inhabited

/-- The command that does nothing and succeeds. -/
def Command.empty : Command := .sequence []

end IacLint.Shell
