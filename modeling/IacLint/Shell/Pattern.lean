/-!
# Shell patterns

The patterns of `case`, of the trimming expansions `${name%pattern}` and of file-name
expansion: `*` matches any text, `?` any one character, and a bracket expression
`[…]` one character of a set (ranges `a-z`, classes `[:alpha:]`, negated by a leading
`!` or `^`). Quoted characters match themselves. A `[` without its closing `]` is an
ordinary character.

## Main definitions

* `Glob` — an item of a compiled pattern
* `compile` — a pattern from characters, each marked as quoted or not
* `globMatches` — whether a pattern matches a whole text
* `hasWildcards` — whether a pattern has an item other than plain characters
-/

namespace IacLint.Shell

/-- A member of a bracket expression. -/
inductive SetMember where
  | char (c : Char)
  | range (lo hi : Char)
  | named (cls : String)
  deriving Inhabited, BEq

/-- An item of a compiled pattern. -/
inductive Glob where
  /-- A character that matches itself. -/
  | char (c : Char)
  /-- `?`: any one character. -/
  | one
  /-- `*`: any text. -/
  | star
  /-- A bracket expression: one character of the members (or of none, when negated). -/
  | set (negated : Bool) (members : List SetMember)
  deriving Inhabited, BEq

/-- Whether a character is in a named character class. -/
def inClass (cls : String) (c : Char) : Bool :=
  match cls with
  | "alpha" => c.isAlpha
  | "digit" => c.isDigit
  | "alnum" => c.isAlphanum
  | "upper" => c.isUpper
  | "lower" => c.isLower
  | "space" => c = ' ' || ('\t' ≤ c && c ≤ '\r')
  | "blank" => c = ' ' || c = '\t'
  | "punct" => ('!' ≤ c && c ≤ '/') || (':' ≤ c && c ≤ '@') || ('[' ≤ c && c ≤ '`') || ('\x7b' ≤ c && c ≤ '~')
  | "print" => ' ' ≤ c && c ≤ '~'
  | "graph" => '!' ≤ c && c ≤ '~'
  | "cntrl" => c.toNat < 32 || c.toNat = 127
  | "xdigit" => c.isDigit || ('a' ≤ c && c ≤ 'f') || ('A' ≤ c && c ≤ 'F')
  | _ => false

/-- Whether a character is a member. -/
def SetMember.has (m : SetMember) (c : Char) : Bool :=
  match m with
  | .char d => c == d
  | .range lo hi => lo ≤ c && c ≤ hi
  | .named cls => inClass cls c

/-- The members of a bracket expression after its opening (and after a negation), up to
and with the closing `]`: the members and the characters read. A `]` right at the start
is a member. Gives nothing when the expression is not closed. -/
def bracketMembers : Nat → Bool → List (Char × Bool) → Option (List SetMember × Nat)
  | 0, _, _ => none
  | _ + 1, _, [] => none
  | fuel + 1, first, (c, q) :: rest =>
    if c = ']' && !q && !first then some ([], 1)
    else if c = '[' && !q then
      match rest with
      | (':', false) :: more =>
        let name := (more.takeWhile fun (d, _) => d.isAlpha).map (·.1)
        match more.drop name.length with
        | (':', false) :: (']', false) :: after =>
          (bracketMembers fuel false after).map fun (ms, k) =>
            (.named (String.ofList name) :: ms, k + name.length + 4)
        | _ => (bracketMembers fuel false rest).map fun (ms, k) => (.char c :: ms, k + 1)
      | _ => (bracketMembers fuel false rest).map fun (ms, k) => (.char c :: ms, k + 1)
    else
      match rest with
      | ('-', false) :: (hi, hq) :: more =>
        if hi = ']' && !hq then
          (bracketMembers fuel false rest).map fun (ms, k) => (.char c :: ms, k + 1)
        else (bracketMembers fuel false more).map fun (ms, k) => (.range c hi :: ms, k + 3)
      | _ => (bracketMembers fuel false rest).map fun (ms, k) => (.char c :: ms, k + 1)

/-- Compiles a pattern from its characters, each marked as quoted or not. -/
def compileFrom : Nat → List (Char × Bool) → List Glob
  | 0, _ => []
  | _ + 1, [] => []
  | fuel + 1, (c, q) :: rest =>
    if q then .char c :: compileFrom fuel rest
    else if c = '*' then .star :: compileFrom fuel rest
    else if c = '?' then .one :: compileFrom fuel rest
    else if c = '\\' then
      match rest with
      | (d, _) :: more => .char d :: compileFrom fuel more
      | [] => [.char '\\']
    else if c = '[' then
      let (negated, body) := match rest with
        | ('!', false) :: more => (true, more)
        | ('^', false) :: more => (true, more)
        | _ => (false, rest)
      match bracketMembers (body.length + 1) true body with
      | some (ms, k) => .set negated ms :: compileFrom fuel (body.drop k)
      | none => .char c :: compileFrom fuel rest
    else .char c :: compileFrom fuel rest

/-- Compiles a pattern from its characters, each marked as quoted or not. -/
def compile (cs : List (Char × Bool)) : List Glob := compileFrom (cs.length + 1) cs

/-- Compiles a pattern written without quotes. -/
def compileText (s : String) : List Glob := compile (s.toList.map (·, false))

/-- Whether a pattern matches a whole text. -/
def globMatches : List Glob → List Char → Bool
  | [], cs => cs.isEmpty
  | .char d :: ps, cs =>
    match cs with
    | c :: rest => c == d && globMatches ps rest
    | [] => false
  | .one :: ps, cs =>
    match cs with
    | _ :: rest => globMatches ps rest
    | [] => false
  | .set negated ms :: ps, cs =>
    match cs with
    | c :: rest => (ms.any (·.has c) != negated) && globMatches ps rest
    | [] => false
  | .star :: ps, cs => (List.range (cs.length + 1)).any fun k => globMatches ps (cs.drop k)

/-- Whether a pattern matches a whole text. -/
def globMatchesText (ps : List Glob) (s : String) : Bool := globMatches ps s.toList

/-- Whether a pattern has an item other than plain characters. -/
def hasWildcards (ps : List Glob) : Bool :=
  ps.any fun g => match g with | .char _ => false | _ => true

/-- The text a pattern of plain characters stands for. -/
def plainText (ps : List Glob) : String :=
  String.ofList (ps.filterMap fun g => match g with | .char c => some c | _ => none)

end IacLint.Shell
