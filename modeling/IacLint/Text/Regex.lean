/-!
# POSIX regular expressions

The regular expressions of the text utilities, basic (BRE) and extended (ERE), with the
common extensions: `\+`, `\?` and `\|` in basic ones, back references in both, and
the escapes `\w \W \s \S \b \B \< \> \` \'`.

* In a basic expression `\( \)` group, `\{m,n\}` repeats, and `^` (`$`) anchors only at
  the start (end) of an alternative, standing for itself elsewhere; a `*` at the start
  of an alternative stands for itself.
* In an extended expression `( )`, `{m,n}`, `|`, `+` and `?` are special unescaped,
  and `^`, `$` always anchor; a `{` that does not start a count stands for itself.
* A bracket expression `[…]` matches one character of a set: ranges, classes
  `[:alpha:]`, a leading `^` to negate, a `]` first standing for itself.

A match is found as POSIX asks: at the earliest position, the longest there. The
matcher gives every way an expression matches from a position, so the longest is
chosen among them (the first such way gives the groups).

## Main definitions

* `Regex` — expressions
* `parseRegex` — reads an expression, or gives the complaint about it
* `Regex.search` — the leftmost-longest match from a position
-/

namespace IacLint.Text

/-- A member of a bracket expression. -/
inductive ClassItem where
  | char (c : Char)
  | range (lo hi : Char)
  | named (cls : String)
  deriving Inhabited, BEq

/-- A regular expression. -/
inductive Regex where
  | empty
  | char (c : Char)
  /-- Any character. -/
  | any
  /-- One character of a set, or of its complement when negated. -/
  | set (negated : Bool) (items : List ClassItem)
  /-- `^`: the start of the text, or of any line when lines are matched one by one. -/
  | lineStart
  /-- `$`: the end of the text, or of any line when lines are matched one by one. -/
  | lineEnd
  /-- `` \` ``: the start of the text, also where lines are matched one by one. -/
  | textStart
  /-- `\'`: the end of the text, also where lines are matched one by one. -/
  | textEnd
  | seq (a b : Regex)
  | alt (a b : Regex)
  /-- At least `min` and at most `max` repetitions, as many as possible first. -/
  | repeat (a : Regex) (min : Nat) (max : Option Nat)
  /-- A numbered group. -/
  | group (k : Nat) (a : Regex)
  /-- The text group `k` matched. -/
  | backref (k : Nat)
  /-- A word boundary (`\b`), or a place that is none (`\B`). -/
  | boundary (negated : Bool)
  /-- The start of a word, `\<`. -/
  | wordStart
  /-- The end of a word, `\>`. -/
  | wordEnd
  deriving Inhabited

/-- The size of an expression. -/
def Regex.size : Regex → Nat
  | .seq a b | .alt a b => a.size + b.size + 1
  | .repeat a _ _ | .group _ a => a.size + 1
  | _ => 1

/-- Whether a character is in a named class. -/
def inNamedClass (cls : String) (c : Char) : Bool :=
  match cls with
  | "alpha" => c.isAlpha
  | "digit" => c.isDigit
  | "alnum" => c.isAlphanum
  | "upper" => c.isUpper
  | "lower" => c.isLower
  | "space" => c = ' ' || ('\t' ≤ c && c ≤ '\r')
  | "blank" => c = ' ' || c = '\t'
  | "punct" => ('!' ≤ c && c ≤ '/') || (':' ≤ c && c ≤ '@') || ('[' ≤ c && c ≤ '`') || ('\x7b' ≤ c && c ≤ '~')
  | "print" => ' ' ≤ c && c ≤ '~'
  | "graph" => '!' ≤ c && c ≤ '~'
  | "cntrl" => c.toNat < 32 || c.toNat = 127
  | "xdigit" => c.isDigit || ('a' ≤ c && c ≤ 'f') || ('A' ≤ c && c ≤ 'F')
  | _ => false

/-- The class names a bracket expression knows. -/
def classNames : List String :=
  ["alpha", "digit", "alnum", "upper", "lower", "space", "blank", "punct", "print", "graph", "cntrl", "xdigit"]

/-- Whether a character is a member. -/
def ClassItem.has (m : ClassItem) (c : Char) : Bool :=
  match m with
  | .char d => c == d
  | .range lo hi => lo ≤ c && c ≤ hi
  | .named cls => inNamedClass cls c

/-- Whether a character is a word character. -/
def isRegexWordChar (c : Char) : Bool := c.isAlphanum || c = '_'

/-! ### Reading expressions -/

/-- Reads the members of a bracket expression after its `[` (and `^`), up to and with
its `]`: the members and the text after. -/
def readBracket : Nat → Bool → List Char → Except String (List ClassItem × List Char)
  | 0, _, _ => .error "Unmatched [, [^, [:, [., or [="
  | _ + 1, _, [] => .error "Unmatched [, [^, [:, [., or [="
  | fuel + 1, first, c :: rest =>
    if c = ']' && !first then .ok ([], rest)
    else if c = '[' then
      match rest with
      | ':' :: more =>
        let name := more.takeWhile fun d => d ≠ ':' && d ≠ ']'
        match more.drop name.length with
        | ':' :: ']' :: after =>
          let n := String.ofList name
          if classNames.contains n then
            (readBracket fuel false after).map fun (ms, r) => (.named n :: ms, r)
          else .error "Invalid character class name"
        | _ => .error "Unmatched [, [^, [:, [., or [="
      | '=' :: d :: '=' :: ']' :: after => (readBracket fuel false after).map fun (ms, r) => (.char d :: ms, r)
      | '.' :: d :: '.' :: ']' :: after => (readBracket fuel false after).map fun (ms, r) => (.char d :: ms, r)
      | _ => single fuel c rest
    else single fuel c rest
where
  /-- A character, or a range from it. -/
  single (fuel : Nat) (c : Char) (rest : List Char) : Except String (List ClassItem × List Char) :=
    match rest with
    | '-' :: hi :: more =>
      if hi = ']' then (readBracket fuel false rest).map fun (ms, r) => (.char c :: ms, r)
      else if hi < c then .error "Invalid range end"
      else (readBracket fuel false more).map fun (ms, r) => (.range c hi :: ms, r)
    | _ => (readBracket fuel false rest).map fun (ms, r) => (.char c :: ms, r)

/-- The dialect an expression is read in. -/
structure RegexSyntax where
  /-- Extended: `( ) { } | + ?` are special unescaped. -/
  extended : Bool := false
  /-- Whether a repetition may not follow another (`a**`, `a*\{2\}`) nor open the
  expression, as in the basic expressions of the stream editor. -/
  strictRepeats : Bool := false
  /-- Whether a repetition with nothing to repeat is ignored and a `{` that starts no
  count stands for itself, as in the extended expressions of the line searcher. -/
  lenient : Bool := false

/-- The most repetitions a count may ask for. -/
def maxRepeats : Nat := 32767

/-- One token of an interval count, and the text after it: a digit, a comma, the
closing (`}` or `\}`), or anything else. -/
inductive CountToken where
  | digit (d : Nat)
  | comma
  | close
  | other

/-- The next token of an interval count, or nothing at the end of the expression. -/
def countToken (ere : Bool) : List Char → Option (CountToken × List Char)
  | [] => none
  | '\\' :: c :: rest =>
    if !ere && c = '\x7d' then some (.close, rest)
    else if c = ',' then some (.comma, rest) else some (.other, rest)
  | ['\\'] => some (.other, [])
  | c :: rest =>
    if ere && c = '\x7d' then some (.close, rest)
    else if c = ',' then some (.comma, rest)
    else if c.isDigit then some (.digit (c.toNat - '0'.toNat), rest)
    else some (.other, rest)

/-- Reads a number of an interval count up to a comma or the closing: the number (none
when there are no digits), whether anything but digits came, the token that ended it
(none at the end of the expression) and the text after that token. -/
def readCountNumber (ere : Bool) : Nat → List Char → Option Nat → Bool →
    Option Nat × Bool × Option CountToken × List Char
  | 0, cs, n, bad => (n, bad, none, cs)
  | fuel + 1, cs, n, bad =>
    match countToken ere cs with
    | none => (n, true, none, [])
    | some (.comma, rest) => (n, bad, some .comma, rest)
    | some (.close, rest) => (n, bad, some .close, rest)
    | some (.digit d, rest) =>
      readCountNumber ere fuel rest (some (min (maxRepeats + 1) ((n.getD 0) * 10 + d))) bad
    | some (.other, rest) => readCountNumber ere fuel rest n true

/-- Reads the count of an interval after its opening, up to and with its closing: the
least and most repetitions and the text after, or the complaint, as the system's
expressions word it: a count cut off by the end is `Unmatched \{`, one with anything
but digits and a comma, or with its least above its most, is invalid. -/
def readInterval (ere : Bool) (cs : List Char) : Except String (Nat × Option Nat × List Char) :=
  let unmatched := "Unmatched \\\x7b"
  let invalid := "Invalid content of \\\x7b\\\x7d"
  let fuel := cs.length + 1
  match readCountNumber ere fuel cs none false with
  | (_, _, none, _) => .error unmatched
  | (lo, badLo, some tok, rest) =>
    if badLo then .error invalid
    else
      match lo, tok with
      | none, .close => .error invalid
      | some n, .close =>
        if n > maxRepeats then .error "Regular expression too big" else .ok (n, some n, rest)
      | _, _ =>
        match readCountNumber ere fuel rest none false with
        | (_, _, none, _) => .error unmatched
        | (hi, badHi, some tok2, after) =>
          let n := lo.getD 0
          match tok2 with
          | .close =>
            if badHi then .error invalid
            else if hi.any (· < n) then .error invalid
            else if (hi.getD n) > maxRepeats then .error "Regular expression too big"
            else .ok (n, hi, after)
          | _ => .error invalid

/-- The state of reading an expression: the text left and the groups opened so far. -/
abbrev RegexReader := StateT (List Char × Nat) (Except String)

/-- The complaint about a repetition with nothing to repeat. -/
def badRepeat : String := "Invalid preceding regular expression"

mutual

/-- Reads alternatives up to the end or a closing group. -/
def readAlternatives (syn : RegexSyntax) : Nat → RegexReader Regex
  | 0 => return .empty
  | n + 1 => do
    let first ← readBranch syn n true .empty
    match (← get).1 with
    | '|' :: rest =>
      if syn.extended then do
        modify fun s => (rest, s.2)
        let more ← readAlternatives syn n
        return .alt first more
      else return first
    | '\\' :: '|' :: rest =>
      if !syn.extended then do
        modify fun s => (rest, s.2)
        let more ← readAlternatives syn n
        return .alt first more
      else return first
    | _ => return first

/-- Reads the pieces of an alternative after those in `acc`; `atStart` while none has
been read. -/
def readBranch (syn : RegexSyntax) : Nat → Bool → Regex → RegexReader Regex
  | 0, _, acc => return acc
  | n + 1, atStart, acc => do
    let (cs, _) ← get
    let ends : Bool := match cs with
      | [] => true
      | '|' :: _ => syn.extended
      | ')' :: _ => syn.extended
      | '\\' :: '|' :: _ => !syn.extended
      | '\\' :: ')' :: _ => !syn.extended
      | _ => false
    if ends then return acc
    else
      let atom ← readAtom syn n atStart
      match atom with
      | .lineStart | .lineEnd | .textStart | .textEnd | .boundary _ | .wordStart | .wordEnd =>
        readBranch syn n true (.seq acc atom)
      | _ => do
        let piece ← readRepeats syn n true atom
        readBranch syn n false (.seq acc piece)

/-- Reads the repetition operators after an atom; `first` before any has been read. -/
def readRepeats (syn : RegexSyntax) : Nat → Bool → Regex → RegexReader Regex
  | 0, _, a => return a
  | n + 1, first, a => do
    let (cs, g) ← get
    let ere := syn.extended
    let stacked (isStar : Bool) : RegexReader Unit :=
      if syn.strictRepeats && !first && isStar then throw badRepeat else pure ()
    match cs with
    | '*' :: rest => do stacked true; set (rest, g); readRepeats syn n false (.repeat a 0 none)
    | '+' :: rest =>
      if ere then do set (rest, g); readRepeats syn n false (.repeat a 1 none) else return a
    | '?' :: rest =>
      if ere then do set (rest, g); readRepeats syn n false (.repeat a 0 (some 1)) else return a
    | '\\' :: '+' :: rest =>
      if !ere then do set (rest, g); readRepeats syn n false (.repeat a 1 none) else return a
    | '\\' :: '?' :: rest =>
      if !ere then do set (rest, g); readRepeats syn n false (.repeat a 0 (some 1)) else return a
    | '\x7b' :: rest =>
      if ere then
        match readInterval true rest with
        | .ok (lo, hi, more) => do set (more, g); readRepeats syn n false (.repeat a lo hi)
        | .error e => if syn.lenient then return a else throw e
      else return a
    | '\\' :: '\x7b' :: rest =>
      if !ere then do
        stacked true
        match readInterval false rest with
        | .ok (lo, hi, more) => do set (more, g); readRepeats syn n false (.repeat a lo hi)
        | .error e => throw e
      else return a
    | _ => return a

/-- Reads one atom. -/
def readAtom (syn : RegexSyntax) : Nat → Bool → RegexReader Regex
  | 0, _ => return .empty
  | n + 1, atStart => do
    let (cs, g) ← get
    let ere := syn.extended
    match cs with
    | [] => return .empty
    | c :: rest =>
      if c = '^' && (ere || atStart) then do set (rest, g); return .lineStart
      else if c = '$' then
        let atEnd : Bool := ere || match rest with
          | [] => true
          | '\\' :: ')' :: _ => true
          | '\\' :: '|' :: _ => true
          | _ => false
        set (rest, g)
        return (if atEnd then .lineEnd else .char '$')
      else if ere && syn.lenient && (c = '*' || c = '+' || c = '?') && atStart then do
        set (rest, g); readAtom syn n atStart
      else if ere && syn.lenient && c = '\x7b' && atStart then
        match readInterval true rest with
        | .ok (_, _, more) => do set (more, g); readAtom syn n atStart
        | .error _ => do set (rest, g); return .char c
      else if ere && (c = '*' || c = '+' || c = '?' || c = '\x7b') && atStart then throw badRepeat
      else if c = '*' && atStart then do set (rest, g); return .char '*'
      else if c = '.' then do set (rest, g); return .any
      else if c = '[' then
        let (negated, body) := match rest with
          | '^' :: more => (true, more)
          | more => (false, more)
        match readBracket (body.length + 1) true body with
        | .ok (items, after) => do set (after, g); return .set negated items
        | .error e => throw e
      else if ere && c = '(' then do
        set (rest, g + 1)
        let inner ← readAlternatives syn n
        match (← get).1 with
        | ')' :: after => do modify fun s => (after, s.2); return .group (g + 1) inner
        | _ => throw "Unmatched ( or \\("
      else if c = '\\' then
        match rest with
        | [] => throw "Trailing backslash"
        | d :: more =>
          if !ere && d = '(' then do
            set (more, g + 1)
            let inner ← readAlternatives syn n
            match (← get).1 with
            | '\\' :: ')' :: after => do modify fun s => (after, s.2); return .group (g + 1) inner
            | _ => throw "Unmatched ( or \\("
          else if !ere && d = ')' then throw "Unmatched ) or \\)"
          else if !ere && d = '\x7b' && atStart && syn.strictRepeats then throw badRepeat
          else if d.isDigit && d ≠ '0' then
            let k := d.toNat - '0'.toNat
            if k > g then throw "Invalid back reference"
            else do set (more, g); return .backref k
          else do
            set (more, g)
            return match d with
              | 'w' => .set false [.named "alnum", .char '_']
              | 'W' => .set true [.named "alnum", .char '_']
              | 's' => .set false [.named "space"]
              | 'S' => .set true [.named "space"]
              | 'b' => .boundary false
              | 'B' => .boundary true
              | '<' => .wordStart
              | '>' => .wordEnd
              | '`' => .textStart
              | '\'' => .textEnd
              | _ => .char d
      else if ere && c = ')' then throw "Unmatched ) or \\)"
      else do set (rest, g); return .char c

end

/-- Reads a regular expression in a dialect: the expression and its number of groups,
or the complaint about it. -/
def parseRegexIn (syn : RegexSyntax) (text : String) : Except String (Regex × Nat) :=
  let cs := text.toList
  match (readAlternatives syn (4 * cs.length + 8)).run (cs, 0) with
  | .ok (r, ([], g)) => .ok (r, g)
  | .ok (_, _) => .error "Unmatched ) or \\)"
  | .error e => .error e

/-- Reads a regular expression, extended when `ere`: the expression and its number of
groups, or the complaint about it. -/
def parseRegex (ere : Bool) (text : String) : Except String (Regex × Nat) :=
  parseRegexIn { extended := ere } text

/-! ### Matching -/

/-- How a text is matched: ignoring case, and whether its lines are matched one by one,
so that `^` and `$` also match at line feeds and no wildcard matches one. -/
structure MatchMode where
  icase : Bool := false
  multiline : Bool := false

/-- Groups matched so far: number, start and end, the latest first. -/
abbrev Groups := List (Nat × Nat × Nat)

/-- Whether two characters are equal, ignoring case when `icase`. -/
def sameChar (icase : Bool) (a b : Char) : Bool :=
  a == b || (icase && a.toLower == b.toLower)

mutual

/-- Every way the expression matches the text from `pos`: the end of the match and the
groups, in the order a backtracking matcher tries them. -/
def Regex.paths (text : Array Char) (mode : MatchMode) : Nat → Regex → Nat → Groups → List (Nat × Groups)
  | 0, _, _, _ => []
  | fuel + 1, r, pos, gs =>
    match r with
    | .empty => [(pos, gs)]
    | .char c =>
      match text[pos]? with
      | some d => if sameChar mode.icase c d then [(pos + 1, gs)] else []
      | none => []
    | .any =>
      match text[pos]? with
      | some d => if mode.multiline && d = '\n' then [] else [(pos + 1, gs)]
      | none => []
    | .set negated items =>
      match text[pos]? with
      | some d =>
        let inSet := items.any fun m =>
          m.has d || (mode.icase && (m.has d.toLower || m.has d.toUpper))
        if negated && mode.multiline && d = '\n' then []
        else if inSet != negated then [(pos + 1, gs)] else []
      | none => []
    | .lineStart =>
      if pos = 0 || (mode.multiline && text[pos - 1]? == some '\n') then [(pos, gs)] else []
    | .lineEnd =>
      if pos = text.size || (mode.multiline && text[pos]? == some '\n') then [(pos, gs)] else []
    | .textStart => if pos = 0 then [(pos, gs)] else []
    | .textEnd => if pos = text.size then [(pos, gs)] else []
    | .seq a b => (Regex.paths text mode fuel a pos gs).flatMap fun (p, g) => Regex.paths text mode fuel b p g
    | .alt a b => Regex.paths text mode fuel a pos gs ++ Regex.paths text mode fuel b pos gs
    | .group k a => (Regex.paths text mode fuel a pos gs).map fun (p, g) => (p, (k, pos, p) :: g)
    | .repeat a lo hi => Regex.repeatPaths text mode fuel a lo hi pos gs
    | .backref k =>
      match gs.find? (·.1 == k) with
      | some (_, s, e) =>
        let len := e - s
        if pos + len ≤ text.size &&
            (List.range len).all fun i => sameChar mode.icase (text[s + i]?.getD ' ') (text[pos + i]?.getD ' ') then
          [(pos + len, gs)]
        else []
      | none => []
    | .boundary negated =>
      let before := pos > 0 && isRegexWordChar (text[pos - 1]?.getD ' ')
      let after := isRegexWordChar (text[pos]?.getD ' ')
      if (before != after) != negated then [(pos, gs)] else []
    | .wordStart =>
      let before := pos > 0 && isRegexWordChar (text[pos - 1]?.getD ' ')
      if !before && isRegexWordChar (text[pos]?.getD ' ') then [(pos, gs)] else []
    | .wordEnd =>
      let before := pos > 0 && isRegexWordChar (text[pos - 1]?.getD ' ')
      if before && !isRegexWordChar (text[pos]?.getD ' ') then [(pos, gs)] else []

/-- Every way of repeating an expression from `pos`, more repetitions first: at least
`lo`, at most `hi`. Once `lo` are done, a repetition that matches nothing ends it. -/
def Regex.repeatPaths (text : Array Char) (mode : MatchMode) :
    Nat → Regex → Nat → Option Nat → Nat → Groups → List (Nat × Groups)
  | 0, _, _, _, _, _ => []
  | fuel + 1, a, lo, hi, pos, gs =>
    let more :=
      if hi == some 0 then []
      else (Regex.paths text mode fuel a pos gs).flatMap fun (p, g) =>
        if p == pos && lo == 0 then []
        else Regex.repeatPaths text mode fuel a (lo - 1) (hi.map (· - 1)) p g
    more ++ (if lo == 0 then [(pos, gs)] else [])

end

/-- The fuel matching from one position takes. -/
def Regex.fuel (r : Regex) (text : Array Char) : Nat := (text.size + 2) * (r.size + 2) * 2 + 64

/-- The longest of the ways a match may end, the first of them when several are as
long. -/
def longestPath : List (Nat × Groups) → Option (Nat × Groups)
  | [] => none
  | p :: rest =>
    match longestPath rest with
    | some q => if q.1 > p.1 then some q else some p
    | none => some p

/-- The longest match starting at `pos`: its end and groups. -/
def Regex.matchAt (r : Regex) (text : Array Char) (mode : MatchMode) (pos : Nat) : Option (Nat × Groups) :=
  longestPath (r.paths text mode (r.fuel text) pos [])

/-- The leftmost-longest match at or after `start`: its start, end and groups. -/
def Regex.search (r : Regex) (text : Array Char) (mode : MatchMode) (start : Nat) :
    Option (Nat × Nat × Groups) :=
  let rec go (k : Nat) (pos : Nat) : Option (Nat × Nat × Groups) :=
    match k with
    | 0 => none
    | k + 1 =>
      match r.matchAt text mode pos with
      | some (e, gs) => some (pos, e, gs)
      | none => if pos ≥ text.size then none else go k (pos + 1)
  go (text.size + 2 - start) start

/-- The longest match from the start of the text only: its end and groups. -/
def Regex.matchAtStart (r : Regex) (text : Array Char) (mode : MatchMode) : Option (Nat × Groups) :=
  r.matchAt text mode 0

/-- The text of group `k` in a match, if it took part. -/
def groupText (text : Array Char) (gs : Groups) (k : Nat) : Option String :=
  (gs.find? (·.1 == k)).map fun (_, s, e) => String.ofList ((text.toList.drop s).take (e - s))

end IacLint.Text
